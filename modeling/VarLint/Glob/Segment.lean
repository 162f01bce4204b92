import VarLint.Text.Rune

/-!
# Segments of glob patterns

A segment is the part of a pattern between slashes, without braces; it is compared with the name of
a file. A star stands for any characters, a question mark for one, a bracketed class for one of
those it lists or, negated, for any other; a backslash takes the next character as it is. A class
that is not closed makes the pattern malformed as soon as the comparison comes to it.
-/

namespace VarLint.Glob

/-- What one part of a segment accepts. -/
inductive Atom where
  | char (c : Char)
  | any
  | star
  | oneOf (negated : Bool) (ranges : List (Char × Char))
  | broken
  deriving DecidableEq, Repr

/-- Reads the inside of a class up to its closing bracket: the ranges, and the rest behind it.
`last` is the character before, if it can start a range. -/
def classRanges : Option Char → List Char → Option (List (Char × Char) × List Char)
  | _, [] => none
  | _, ']' :: rest => some ([], rest)
  | some low, '-' :: c :: rest =>
    if c == ']' then some ([('-', '-')], rest)
    else if c == '\\' then
      match rest with
      | [] => none
      | high :: rest => (classRanges none rest).map fun (rs, r) => ((low, high) :: rs, r)
    else (classRanges none rest).map fun (rs, r) => ((low, c) :: rs, r)
  | _, '\\' :: c :: rest => (classRanges (some c) rest).map fun (rs, r) => ((c, c) :: rs, r)
  | _, c :: rest => (classRanges (some c) rest).map fun (rs, r) => ((c, c) :: rs, r)

/-- The atoms of a segment. `fuel` need not exceed the number of its characters. -/
def atomsFrom : Nat → List Char → List Atom
  | 0, _ => []
  | _, [] => []
  | fuel + 1, c :: rest =>
    match c with
    | '*' => .star :: atomsFrom fuel rest
    | '?' => .any :: atomsFrom fuel rest
    | '\\' =>
      match rest with
      | [] => [.broken]
      | e :: rest => .char e :: atomsFrom fuel rest
    | '[' =>
      let (negated, inside) :=
        match rest with
        | '!' :: inside => (true, inside)
        | '^' :: inside => (true, inside)
        | _ => (false, rest)
      match inside with
      | ']' :: _ => [.broken]
      | _ => match classRanges none inside with
        | some (ranges, rest) => .oneOf negated ranges :: atomsFrom fuel rest
        | none => [.broken]
    | _ => .char c :: atomsFrom fuel rest

/-- The atoms of a segment. -/
def atoms (segment : Bytes) : List Atom :=
  let cs := segment.chars
  atomsFrom cs.length cs

/-- The end parts of a list, the whole list first. -/
def suffixes {α : Type} : List α → List (List α)
  | [] => [[]]
  | x :: xs => (x :: xs) :: suffixes xs

/-- The first answer that is not `some false`. -/
def firstHit {α : Type} (f : α → Option Bool) : List α → Option Bool
  | [] => some false
  | x :: xs =>
    match f x with
    | some false => firstHit f xs
    | answer => answer

/-- Whether a name fits the atoms; `none` for a malformed pattern. -/
def fits : List Atom → List Char → Option Bool
  | [], name => some name.isEmpty
  | .broken :: _, _ => none
  | .star :: rest, name => firstHit (fits rest) (suffixes name)
  | .char _ :: _, [] => some false
  | .char c :: rest, n :: name => if c == n then fits rest name else some false
  | .any :: _, [] => some false
  | .any :: rest, n :: name => if n == '/' then some false else fits rest name
  | .oneOf _ _ :: _, [] => some false
  | .oneOf negated ranges :: rest, n :: name =>
    if negated != ranges.any (fun (low, high) => low ≤ n && n ≤ high) then fits rest name
    else some false

end VarLint.Glob
