import VarLint.Text.Bytes

/-!
# Decimal text of floating-point numbers

A finite double is a natural number times a power of two. Its shortest decimal is the one with the
fewest digits among those that round to the same double, and of these the nearest; its decimal with
a fixed number of places is the exact value rounded, a half going to the even neighbour. Both are
computed in natural numbers.
-/

namespace VarLint.Decimal

/-- A non-negative rational number. -/
structure Ratio where
  num : Nat
  den : Nat
  deriving DecidableEq, Repr

namespace Ratio

/-- `n * 2 ^ q`. -/
def ofBinary (n : Nat) (q : Int) : Ratio :=
  if 0 ≤ q then ⟨n * Nat.pow 2 q.toNat, 1⟩ else ⟨n, Nat.pow 2 (-q).toNat⟩

/-- `n * 10 ^ e`. -/
def ofDecimal (n : Nat) (e : Int) : Ratio :=
  if 0 ≤ e then ⟨n * Nat.pow 10 e.toNat, 1⟩ else ⟨n, Nat.pow 10 (-e).toNat⟩

/-- Whether `a ≤ b`. -/
def le (a b : Ratio) : Bool := a.num * b.den ≤ b.num * a.den

/-- Whether `a < b`. -/
def lt (a b : Ratio) : Bool := a.num * b.den < b.num * a.den

/-- The distance between two rationals. -/
def distance (a b : Ratio) : Ratio :=
  ⟨if a.num * b.den ≤ b.num * a.den then b.num * a.den - a.num * b.den
    else a.num * b.den - b.num * a.den, a.den * b.den⟩

end Ratio

/-- A finite double: its sign, and its absolute value as `mantissa * 2 ^ exponent`. -/
structure Binary where
  negative : Bool
  mantissa : Nat
  exponent : Int
  deriving DecidableEq, Repr

/-- The weight of the bit above the fraction of a double. -/
def hiddenBit : Nat := 4503599627370496

/-- The parts of a double; infinities and NaN are read as if they were finite. -/
def Binary.ofFloat (x : Float) : Binary :=
  let bits : Nat := x.toBits.toNat
  let fraction : Nat := bits % hiddenBit
  let biased : Nat := bits / hiddenBit % 2048
  let negative := bits / hiddenBit / 2048 == 1
  if biased = 0 then ⟨negative, fraction, -1074⟩
  else ⟨negative, fraction + hiddenBit, (biased : Int) - 1075⟩

/-- Decimal digits and the place of the point: `digits * 10 ^ exponent`. -/
structure Scaled where
  digits : Nat
  exponent : Int
  deriving DecidableEq, Repr

/-- The rationals that round to a double: the ends, and whether they round to it too. -/
structure Interval where
  low : Ratio
  high : Ratio
  closed : Bool

namespace Interval

/-- The interval around a positive double. Below a power of two the neighbour is half as far. -/
def around (b : Binary) : Interval :=
  let q := b.exponent - 2
  let below := if b.mantissa = hiddenBit ∧ -1074 < b.exponent then 1 else 2
  ⟨.ofBinary (4 * b.mantissa - below) q, .ofBinary (4 * b.mantissa + 2) q, b.mantissa % 2 == 0⟩

/-- Whether a rational lies in the interval. -/
def contains (i : Interval) (r : Ratio) : Bool :=
  if i.closed then i.low.le r && r.le i.high else i.low.lt r && r.lt i.high

end Interval

/-- The least `k` with `r < 10 ^ k`, searched upwards from `k` for at most `fuel` steps. -/
def magnitudeFrom (r : Ratio) : Nat → Int → Int
  | 0, k => k
  | fuel + 1, k => if r.lt (.ofDecimal 1 k) then k else magnitudeFrom r fuel (k + 1)

/-- The least `k` with `r < 10 ^ k` for the absolute value of a double. The binary length of the
value gives a start below it that is at most two steps off. -/
def magnitude (b : Binary) (r : Ratio) : Int :=
  let bits : Int := (Nat.log2 b.mantissa : Int) + b.exponent
  magnitudeFrom r 4 (bits * 30103 / 100000 - 1)

/-- The shortest decimal with at least `n` digits, trying at most `fuel` numbers of digits. -/
def shortestFrom (r : Ratio) (i : Interval) (k : Int) : Nat → Nat → Scaled
  | 0, n => ⟨0, k - n⟩
  | fuel + 1, n =>
    let e := k - n
    let unit := Ratio.ofDecimal 1 e
    let lower := (r.num * unit.den) / (r.den * unit.num)
    let low := Ratio.ofDecimal lower e
    let high := Ratio.ofDecimal (lower + 1) e
    match i.contains low && lower != 0, i.contains high with
    | true, true => if (r.distance high).lt (r.distance low) then ⟨lower + 1, e⟩ else ⟨lower, e⟩
    | true, false => ⟨lower, e⟩
    | false, true => ⟨lower + 1, e⟩
    | false, false => shortestFrom r i k fuel (n + 1)

/-- Drops zeros at the end of the digits. -/
def trimZeros : Nat → Scaled → Scaled
  | 0, s => s
  | fuel + 1, s =>
    if s.digits % 10 = 0 ∧ s.digits ≠ 0 then trimZeros fuel ⟨s.digits / 10, s.exponent + 1⟩ else s

/-- The shortest decimal of the absolute value of a double. -/
def shortest (b : Binary) : Scaled :=
  if b.mantissa = 0 then ⟨0, 0⟩
  else
    let r := Ratio.ofBinary b.mantissa b.exponent
    trimZeros 20 (shortestFrom r (.around b) (magnitude b r) 18 1)

/-- A quotient rounded to the nearest natural number, a half going to the even neighbour. -/
def roundDiv (num den : Nat) : Nat :=
  let q := num / den
  let r := num % den
  if 2 * r < den then q
  else if den < 2 * r then q + 1
  else if q % 2 = 0 then q else q + 1

/-- The digits with the point before the last `places` of them, and zeros where digits lack. -/
def positional (digits : Bytes) (places : Nat) : Bytes :=
  let padded := List.replicate (places + 1 - digits.length) 0x30 ++ digits
  let whole := padded.take (padded.length - places)
  if places = 0 then whole else whole ++ "." ++ padded.drop (padded.length - places)

/-- The text of a number that is not finite. -/
def infinite? (x : Float) : Option Bytes :=
  if x.isNaN then some "NaN"
  else if x.isInf then some (if x < 0 then "-Inf" else "+Inf")
  else none

/-- The sign of a number as text. -/
def sign (b : Binary) : Bytes := if b.negative then "-" else []

/-- The exact value with the given number of places. -/
def fixed (places : Nat) (x : Float) : Bytes :=
  let b := Binary.ofFloat x
  let r := Ratio.ofBinary b.mantissa b.exponent
  (infinite? x).getD
    (sign b ++ positional (.ofNat (roundDiv (r.num * Nat.pow 10 places) r.den)) places)

/-- A scaled number without exponent. -/
def Scaled.plain (s : Scaled) : Bytes :=
  if 0 ≤ s.exponent then .ofNat (s.digits * Nat.pow 10 s.exponent.toNat)
  else positional (.ofNat s.digits) (-s.exponent).toNat

/-- A scaled number with one digit before the point and an exponent of at least `width` digits. -/
def Scaled.scientific (width : Nat) (s : Scaled) : Bytes :=
  let digits := Bytes.ofNat s.digits
  let e : Int := s.exponent + (digits.length : Int) - 1
  let tail := digits.drop 1
  let power := Bytes.ofNat e.natAbs
  let point : Bytes := if tail.isEmpty then [] else "."
  let mark : Bytes := if e < 0 then "e-" else "e+"
  digits.take 1 ++ point ++ tail ++ mark ++ List.replicate (width - power.length) 0x30 ++ power

/-- The power of ten of the first digit. -/
def Scaled.order (s : Scaled) : Int :=
  if s.digits = 0 then 0 else s.exponent + ((Bytes.ofNat s.digits).length : Int) - 1

/-- When a number is written with an exponent, and how many digits that has at least: below the
order `least` and from the order `most` on. -/
structure Layout where
  least : Int
  most : Int
  width : Nat

/-- The shortest decimal in a layout. -/
def Layout.render (l : Layout) (x : Float) : Bytes :=
  let b := Binary.ofFloat x
  let s := shortest b
  (infinite? x).getD
    (sign b ++ (if s.order < l.least || l.most ≤ s.order then s.scientific l.width else s.plain))

/-- The shortest decimal, never with an exponent. -/
def plain (x : Float) : Bytes :=
  let b := Binary.ofFloat x
  (infinite? x).getD (sign b ++ (shortest b).plain)

end VarLint.Decimal
