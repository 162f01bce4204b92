import VarLint.Text.Bytes

/-!
# The clock

Universal time as it is printed: the date and the time of day of a number of seconds since the start
of the year 1970.
-/

namespace VarLint.Clock

/-- A day by year, month and day. -/
structure Date where
  year : Nat
  month : Nat
  day : Nat
  deriving DecidableEq, Repr

/-- The date of a number of days since the start of 1970. Years are counted from March on, so that
the day that leap years add is their last one, and from the year zero, in cycles of 400 years. -/
def dateOf (days : Nat) : Date :=
  let fromZero := days + 719468
  let cycle := fromZero / 146097
  let dayOfCycle := fromZero % 146097
  let yearOfCycle :=
    (dayOfCycle - dayOfCycle / 1460 + dayOfCycle / 36524 - dayOfCycle / 146096) / 365
  let dayOfYear := dayOfCycle - (365 * yearOfCycle + yearOfCycle / 4 - yearOfCycle / 100)
  let month := (5 * dayOfYear + 2) / 153
  let day := dayOfYear - (153 * month + 2) / 5 + 1
  if month < 10 then ⟨cycle * 400 + yearOfCycle, month + 3, day⟩
  else ⟨cycle * 400 + yearOfCycle + 1, month - 9, day⟩

/-- A number with zeros in front, so that it has at least `width` digits. -/
def digits (width n : Nat) : Bytes :=
  let s := Bytes.ofNat n
  List.replicate (width - s.length) 0x30 ++ s

/-- The time of day. -/
def timeOfDay (seconds : Nat) : Bytes :=
  let s := seconds % 86400
  digits 2 (s / 3600) ++ ":" ++ digits 2 (s / 60 % 60) ++ ":" ++ digits 2 (s % 60)

/-- The date and the time of day. -/
def render (seconds : Nat) : Bytes :=
  let d := dateOf (seconds / 86400)
  digits 4 d.year ++ "-" ++ digits 2 d.month ++ "-" ++ digits 2 d.day ++ "T" ++
    timeOfDay seconds ++ "Z"

end VarLint.Clock
