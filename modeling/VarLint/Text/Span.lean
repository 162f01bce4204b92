/-!
# Spans of code points

A span is an arithmetic progression of code points. Tables of character properties are lists of
spans: most are plain intervals, and those of letter case often step by two.
-/

namespace VarLint

/-- The code points `first`, `first + step`, … up to `last`. -/
structure Span where
  first : Nat
  last : Nat
  step : Nat := 1
  deriving DecidableEq, Repr

namespace Span

/-- Whether a code point is in the span. -/
def contains (s : Span) (c : Nat) : Bool :=
  s.first ≤ c && c ≤ s.last && (c - s.first) % s.step == 0

/-- Whether a code point is in one of the spans. -/
def anyContains (spans : List Span) (c : Nat) : Bool :=
  spans.any (fun s => s.contains c)

end Span

end VarLint
