/-!
# Bytes

Text as the program meets it: file contents, paths, arguments and property values are byte strings
that need not be well-formed UTF-8. A string literal stands for its UTF-8 bytes wherever bytes are
expected.
-/

namespace VarLint

/-- A byte string. -/
abbrev Bytes := List UInt8

namespace Bytes

/-- The UTF-8 bytes of a string. -/
def ofString (s : String) : Bytes := s.toList.flatMap String.utf8EncodeChar

instance : Coe String Bytes := ⟨ofString⟩

/-- The bytes that print a natural number in decimal. -/
def ofNat (n : Nat) : Bytes := ofString (toString n)

/-- The bytes that print an integer in decimal, with a sign only if it is negative. -/
def ofInt (n : Int) : Bytes :=
  if n < 0 then ofString "-" ++ ofNat n.natAbs else ofNat n.natAbs

/-- The bytes with each ASCII capital replaced by its small letter. -/
def lowerAscii (s : Bytes) : Bytes :=
  s.map fun b => if 0x41 ≤ b && b ≤ 0x5A then b + 0x20 else b

/-- Whether `needle` occurs in `s` as a run of neighbouring bytes. -/
def hasInfix (needle : Bytes) : Bytes → Bool
  | [] => needle.isEmpty
  | b :: s => needle.isPrefixOf (b :: s) || hasInfix needle s

/-- The parts of `s` before and after the first occurrence of `needle`. -/
def cut? (needle : Bytes) : Bytes → Option (Bytes × Bytes)
  | [] => if needle.isEmpty then some ([], []) else none
  | b :: s =>
    if needle.isPrefixOf (b :: s) then some ([], (b :: s).drop needle.length)
    else (cut? needle s).map fun (before, after) => (b :: before, after)

/-- The pieces of `s` between the separators: always one more piece than there are separators. -/
def splitOn (separator : UInt8) : Bytes → List Bytes
  | [] => [[]]
  | b :: s =>
    if b == separator then [] :: splitOn separator s
    else match splitOn separator s with
      | [] => [[b]]
      | piece :: pieces => (b :: piece) :: pieces

/-- The pieces in order with `separator` between neighbours. -/
def join (separator : Bytes) : List Bytes → Bytes
  | [] => []
  | [piece] => piece
  | piece :: pieces => piece ++ separator ++ join separator pieces

/-- `s` with every occurrence of `needle` replaced, from left to right; `needle` is not empty. -/
def replaceAll (needle replacement : Bytes) (s : Bytes) : Bytes :=
  go 0 s
where
  /-- Walks `s`, first dropping the `skip` bytes left of the occurrence just replaced. -/
  go : Nat → Bytes → Bytes
    | _, [] => []
    | skip + 1, _ :: s => go skip s
    | 0, b :: s =>
      if needle.isPrefixOf (b :: s) then replacement ++ go (needle.length - 1) s
      else b :: go 0 s

/-- `s` without the bytes at its right end that satisfy `p`. -/
def dropRightWhile (p : UInt8 → Bool) (s : Bytes) : Bytes :=
  (s.reverse.dropWhile p).reverse

/-- The position of the last byte equal to `b`. -/
def lastIndexOf? (b : UInt8) (s : Bytes) : Option Nat :=
  (s.reverse.idxOf? b).map fun i => s.length - 1 - i

/-- `n` copies of a byte string in a row. -/
def times (n : Nat) (s : Bytes) : Bytes := (List.replicate n s).flatten

end Bytes

end VarLint
