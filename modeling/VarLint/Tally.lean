import VarLint.Text.Bytes

/-!
# Tallies

How often each value occurs in a list, ranked: the most frequent first, and in byte order among
equals.
-/

namespace VarLint.Tally

/-- The elements of a list, each at its first occurrence only. -/
def distinct {α : Type} [BEq α] : List α → List α
  | [] => []
  | x :: xs => x :: (distinct xs).filter (fun y => !(y == x))

/-- Whether `a` comes before `b` or equals it in byte order. -/
def bytesLe (a b : Bytes) : Bool := !decide (b < a)

/-- Whether one counted value ranks before another or equal to it: by falling count, then by rising
name. -/
def ranksLe (a b : Bytes × Nat) : Bool :=
  if a.2 = b.2 then bytesLe a.1 b.1 else b.2 < a.2

/-- Each value of a list with the number of its occurrences, ranked. -/
def ranked (values : List Bytes) : List (Bytes × Nat) :=
  ((distinct values).map fun v => (v, values.count v)).mergeSort ranksLe

end VarLint.Tally
