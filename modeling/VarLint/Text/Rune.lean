import VarLint.Text.Bytes
import VarLint.Text.Case

/-!
# Runes

The characters of a byte string. Well-formed UTF-8 sequences are decoded, and every byte that begins
none counts as one replacement character, so each byte string has a unique list of runes and the
bytes of its runes are the string again.
-/

namespace VarLint

/-- A character together with the bytes it was read from. -/
structure Rune where
  char : Char
  bytes : Bytes
  deriving DecidableEq, Repr

namespace Rune

/-- The character that stands for a byte outside every well-formed sequence. -/
def replacement : Char := Char.ofNat 0xFFFD

/-- A byte that is no part of a well-formed sequence. -/
def malformed (b : UInt8) : Rune := ⟨replacement, [b]⟩

/-- Whether the rune is a malformed byte, as opposed to a replacement character in the text. -/
def isMalformed (r : Rune) : Bool := r.char == replacement && r.bytes.length == 1

/-- The low six bits of a continuation byte. -/
def continuation? (b : UInt8) : Option Nat :=
  if 0x80 ≤ b && b ≤ 0xBF then some (b.toNat - 0x80) else none

/-- The code point of a multi-byte sequence that starts with `lead`, if it is well-formed: not
longer than needed, no surrogate, and at most U+10FFFF. -/
def sequence? (lead : UInt8) : Bytes → Option (Char × Nat)
  | [b] => do
    let x ← continuation? b
    if 0xC2 ≤ lead && lead ≤ 0xDF then some (Char.ofNat ((lead.toNat - 0xC0) * 0x40 + x), 2)
    else none
  | [b, c] => do
    let x ← continuation? b
    let y ← continuation? c
    let code := (lead.toNat - 0xE0) * 0x1000 + x * 0x40 + y
    if 0xE0 ≤ lead && lead ≤ 0xEF && 0x800 ≤ code && !(0xD800 ≤ code && code ≤ 0xDFFF) then
      some (Char.ofNat code, 3)
    else none
  | [b, c, d] => do
    let x ← continuation? b
    let y ← continuation? c
    let z ← continuation? d
    let code := (lead.toNat - 0xF0) * 0x40000 + x * 0x1000 + y * 0x40 + z
    if 0xF0 ≤ lead && lead ≤ 0xF4 && 0x10000 ≤ code && code ≤ 0x10FFFF then
      some (Char.ofNat code, 4)
    else none
  | _ => none

/-- The first rune of the non-empty byte string `lead :: rest`. -/
def first (lead : UInt8) (rest : Bytes) : Rune :=
  if lead < 0x80 then ⟨Char.ofNat lead.toNat, [lead]⟩
  else if lead < 0xC2 then malformed lead
  else
    let tail := rest.take (if lead < 0xE0 then 1 else if lead < 0xF0 then 2 else 3)
    match sequence? lead tail with
    | some (c, _) => ⟨c, lead :: tail⟩
    | none => malformed lead

/-- The rune of a character. -/
def ofChar (c : Char) : Rune := ⟨c, String.utf8EncodeChar c⟩

end Rune

namespace Bytes

/-- The runes of a byte string. -/
def runes (s : Bytes) : List Rune :=
  go 0 s
where
  /-- Walks the bytes, first dropping the `skip` bytes that belong to the rune just read. -/
  go : Nat → Bytes → List Rune
    | _, [] => []
    | skip + 1, _ :: s => go skip s
    | 0, b :: s =>
      let r := Rune.first b s
      r :: go (r.bytes.length - 1) s

/-- The bytes of a list of runes. -/
def ofRunes (rs : List Rune) : Bytes := rs.flatMap Rune.bytes

/-- The characters of a byte string, a replacement character for each malformed byte. -/
def chars (s : Bytes) : List Char := s.runes.map Rune.char

/-- The UTF-8 bytes of a list of characters. -/
def ofChars (cs : List Char) : Bytes := cs.flatMap String.utf8EncodeChar

/-- Whether the bytes are well-formed UTF-8. -/
def isWellFormed (s : Bytes) : Bool := s.runes.all (fun r => !r.isMalformed)

/-- Each character in its lower case form, a replacement character for each malformed byte. -/
def toLower (s : Bytes) : Bytes :=
  ofChars (s.chars.map fun c => Char.ofNat (Case.lower c.toNat))

/-- The number of runes. -/
def runeCount (s : Bytes) : Nat := s.runes.length

end Bytes

end VarLint
