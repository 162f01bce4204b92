import VarLint.Decimal

/-!
# Reading numbers

The written forms of integers, floating-point numbers and truth values that settings accept.
-/

namespace VarLint.Numeral

/-- Why a text does not stand for a value. -/
inductive Problem where
  | malformed
  | outOfRange
  deriving DecidableEq, Repr

/-- A problem in words. -/
def Problem.message : Problem → Bytes
  | malformed => "invalid syntax"
  | outOfRange => "value out of range"

/-! ## Ranges -/

/-- The number of unsigned integers of 64 bits. -/
def wordBound : Nat := 18446744073709551616

/-- The number of negative integers of 64 bits. -/
def signBound : Nat := 9223372036854775808

/-- Whether an integer has 64 bits. -/
def isWord (n : Int) : Bool := -(signBound : Int) ≤ n && n < signBound

/-! ## Digits -/

/-- Whether a byte is a decimal digit. -/
def isDigit (b : UInt8) : Bool := 0x30 ≤ b && b ≤ 0x39

/-- The byte that may separate digits. -/
def separator : UInt8 := 0x5F

/-- The small form of an ASCII letter. -/
def lower (b : UInt8) : UInt8 := b ||| 0x20

/-- The value of a digit or letter. -/
def digit? (b : UInt8) : Option Nat :=
  if isDigit b then some (b.toNat - 0x30)
  else if 0x61 ≤ lower b && lower b ≤ 0x7A then some ((lower b).toNat - 0x61 + 10)
  else none

/-- A text without its sign, and whether it is negative. -/
def unsign : Bytes → Bool × Bytes
  | [] => (false, [])
  | b :: s => if b == 0x2D then (true, s) else if b == 0x2B then (false, s) else (false, b :: s)

/-- The base that a letter after a zero stands for. -/
def baseOf? (b : UInt8) : Option Nat :=
  if lower b == 0x62 then some 2
  else if lower b == 0x6F then some 8
  else if lower b == 0x78 then some 16
  else none

/-- What came last while separators are checked. -/
inductive Last where
  | digit
  | separator
  | other
  deriving DecidableEq, Repr

/-- Whether every separator stands between two digits. -/
def separatorsFit (hex : Bool) : Last → Bytes → Bool
  | last, [] => last ≠ .separator
  | last, b :: s =>
    if isDigit b || (hex && 0x61 ≤ lower b && lower b ≤ 0x66) then separatorsFit hex .digit s
    else if b == separator then last = .digit && separatorsFit hex .separator s
    else last ≠ .separator && separatorsFit hex .other s

/-- Whether the separators of a number stand between digits, or between the mark of a base and a
digit. -/
def separatorsOk (s : Bytes) : Bool :=
  let (_, s) := unsign s
  match s with
  | 0x30 :: b :: rest =>
    match baseOf? b with
    | some base => separatorsFit (base == 16) .digit rest
    | none => separatorsFit false .other s
  | _ => separatorsFit false .other s

/-! ## Integers -/

/-- The number that digits of a base stand for, if it has 64 bits. -/
def digits (base : Nat) : Nat → Bytes → Except Problem Nat
  | n, [] => .ok n
  | n, b :: s =>
    if b == separator then digits base n s
    else match digit? b with
      | none => .error .malformed
      | some d =>
        if base ≤ d then .error .malformed
        else if wordBound ≤ n * base + d then .error .outOfRange
        else digits base (n * base + d) s

/-- A natural number of 64 bits. A zero and a letter stand for a base, and a zero alone for base
eight. -/
def natural (s : Bytes) : Except Problem Nat :=
  let value : Except Problem Nat :=
    match s with
    | [] => .error .malformed
    | 0x30 :: b :: c :: rest =>
      match baseOf? b with
      | some base => digits base 0 (c :: rest)
      | none => digits 8 0 (b :: c :: rest)
    | 0x30 :: rest => digits 8 0 rest
    | _ => digits 10 0 s
  match value with
  | .ok n => if s.contains separator && !separatorsOk s then .error .malformed else .ok n
  | .error e => .error e

/-- An integer of 64 bits. -/
def integer (s : Bytes) : Except Problem Int :=
  let (negative, body) := unsign s
  match natural body with
  | .error e => .error e
  | .ok n =>
    if negative then (if signBound < n then .error .outOfRange else .ok (-(n : Int)))
    else if signBound ≤ n then .error .outOfRange
    else .ok n

/-! ## Floating-point numbers -/

/-- The digits of a mantissa: their value, how many stand after the point, whether a point was read,
whether there are any, and the rest of the text. -/
structure Mantissa where
  value : Nat := 0
  places : Nat := 0
  pointed : Bool := false
  nonempty : Bool := false
  rest : Bytes := []

/-- Reads a mantissa. -/
def mantissa (base : Nat) : Mantissa → Bytes → Mantissa
  | m, [] => { m with rest := [] }
  | m, b :: s =>
    if b == separator then mantissa base m s
    else if b == 0x2E then
      if m.pointed then { m with rest := b :: s } else mantissa base { m with pointed := true } s
    else match digit? b with
      | none => { m with rest := b :: s }
      | some d =>
        if base ≤ d then { m with rest := b :: s }
        else mantissa base { m with value := m.value * base + d, nonempty := true
                                    places := if m.pointed then m.places + 1 else m.places } s

/-- The digits of an exponent; a very large one is cut off. -/
def exponentDigits : Nat → Bytes → Option Nat
  | n, [] => some n
  | n, b :: s =>
    if b == separator then exponentDigits n s
    else if isDigit b then exponentDigits (if n < 10000 then n * 10 + (b.toNat - 0x30) else n) s
    else none

/-- An exponent with its sign; it starts with a digit. -/
def exponent? (s : Bytes) : Option Int :=
  let (negative, body) := unsign s
  if !body.head?.any isDigit then none
  else (exponentDigits 0 body).map fun n => if negative then -(n : Int) else n

/-- `n * 10 ^ e` rounded to a double. Beyond the range of doubles the answer is infinite or zero. -/
def decimalFloat (n : Nat) (e : Int) : Float :=
  let order : Int := (Nat.log2 n : Int) * 30103 / 100000 + e
  if n = 0 || order < -400 then 0
  else if 400 < order then Float.ofScientific 1 false 400
  else Float.ofScientific n (e < 0) e.natAbs

/-- `n * 2 ^ e` rounded to a double. Beyond the range of doubles the answer is infinite or zero. -/
def binaryFloat (n : Nat) (e : Int) : Float :=
  let order : Int := (Nat.log2 n : Int) + e
  if n = 0 || order < -1100 then 0
  else if 1100 < order then Float.ofScientific 1 false 400
  else if 0 ≤ e then Float.ofScientific (n * Nat.pow 2 e.toNat) false 0
  else Float.ofScientific (n * Nat.pow 5 e.natAbs) true e.natAbs

/-- The words for what is no finite number. -/
def word? (s : Bytes) : Option Float :=
  let (negative, body) := unsign s
  let infinity := Float.ofScientific 1 false 400
  let lowered := body.lowerAscii
  if lowered == "inf" || lowered == "infinity" then some (if negative then -infinity else infinity)
  else if s.lowerAscii == "nan" then some (infinity - infinity)
  else none

/-- A decimal number, or a hexadecimal one, which needs a binary exponent. -/
def finite? (s : Bytes) : Option Float :=
  let (negative, body) := unsign s
  let hex := match body with
    | 0x30 :: b :: _ :: _ => lower b == 0x78
    | _ => false
  let m := mantissa (if hex then 16 else 10) {} (if hex then body.drop 2 else body)
  let exponent : Option Int :=
    match m.rest with
    | [] => if hex then none else some 0
    | b :: rest => if lower b == (if hex then 0x70 else 0x65) then exponent? rest else none
  match exponent with
  | none => none
  | some e =>
    if !m.nonempty || (s.contains separator && !separatorsOk s) then none
    else
      let x :=
        if hex then binaryFloat m.value (e - 4 * m.places) else decimalFloat m.value (e - m.places)
      some (if negative then -x else x)

/-- The double nearest to a written number; beyond the range of doubles it is infinite. -/
def float? (s : Bytes) : Option Float :=
  match word? s with
  | some x => some x
  | none => finite? s

/-- The double nearest to a written number. -/
def float (s : Bytes) : Except Problem Float :=
  match float? s with
  | none => .error .malformed
  | some x => if x.isInf && (word? s).isNone then .error .outOfRange else .ok x

/-- A double without its fraction as an integer of 64 bits; one that does not fit gives the least
integer. -/
def truncate (x : Float) : Int :=
  let b := Decimal.Binary.ofFloat x
  let size : Nat :=
    if 0 ≤ b.exponent then b.mantissa * Nat.pow 2 b.exponent.toNat
    else b.mantissa / Nat.pow 2 b.exponent.natAbs
  let n : Int := if b.negative then -(size : Int) else size
  if isWord n then n else -(signBound : Int)

/-! ## Truth values -/

/-- The texts that stand for a truth value. -/
def bool? (s : Bytes) : Option Bool :=
  if [Bytes.ofString "1", "t", "T", "true", "TRUE", "True"].contains s then some true
  else if [Bytes.ofString "0", "f", "F", "false", "FALSE", "False"].contains s then some false
  else none

end VarLint.Numeral
