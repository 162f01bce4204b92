import VarLint.Report.IssueList
import VarLint.Report.Json
import VarLint.Report.Markdown
import VarLint.Report.Statistics

/-!
# Report formats

The formats by name, the one that is used, and the known name closest to a misspelt one.
-/

namespace VarLint.Report

/-- The report formats. -/
inductive Format where
  | issues
  | summary
  | full
  | json
  | markdown
  deriving DecidableEq, Repr

namespace Format

/-- The formats in the order in which they are offered. -/
def all : List Format := [issues, summary, full, json, markdown]

/-- The name of a format. -/
def name : Format → Bytes
  | issues => "issues"
  | summary => "summary"
  | full => "full"
  | json => "json"
  | markdown => "markdown"

/-- The names that can be configured: each format's own and a short one for Markdown. -/
def names : List (Bytes × Format) :=
  all.map (fun f => (f.name, f)) ++ [(Bytes.ofString "md", markdown)]

/-- The format of a configured name. -/
def ofName? (s : Bytes) : Option Format := names.lookup s

/-- Whether a name can be configured; an empty one stands for the default. -/
def isValid (s : Bytes) : Bool := s.isEmpty || (ofName? s).isSome

/-- The format that is used: the list of issues for a quiet run and by default. -/
def choose (name : Bytes) (quiet : Bool) : Format :=
  if quiet then issues else (ofName? name).getD issues

/-! ## Suggestions -/

/-- The state of matching a pattern against a candidate: the rest of the pattern, the score of the
best place for its first character, that place, the places taken, the bonus for neighbours, and the
total. -/
structure Matching where
  pattern : List Char
  best : Int := -1
  bestAt : Option Nat := none
  taken : List Nat := []
  neighbours : Int := 0
  total : Int := 0

/-- Whether two characters are case variants of one another. -/
def sameLetter (a b : Char) : Bool := Case.fold a.toNat == Case.fold b.toNat

/-- Scores the candidate's character at index `i` for the next character of the pattern. The first
place of the candidate counts ten, and a place next to the one before counts more each time. -/
def Matching.score (m : Matching) (i : Nat) (c : Char) : Matching :=
  match m.pattern with
  | [] => m
  | p :: _ =>
    if !sameLetter c p then m
    else
      let bonus : Int :=
        match m.taken.head? with
        | some last => if last + 1 = i then 2 * m.neighbours + 5 else 0
        | none => 0
      let score : Int := (if i = 0 then 10 else 0) + bonus
      let m := { m with neighbours := m.neighbours + bonus }
      if m.best < score then { m with best := score, bestAt := some i } else m

/-- Takes the best place if the pattern's next character comes next or the candidate ends. A late
first place costs five for each character before it, at most fifteen. -/
def Matching.take (m : Matching) (next : Option Char) : Matching :=
  let due :=
    match next with
    | none => true
    | some c => (m.pattern.drop 1).head?.any (sameLetter c)
  match m.bestAt with
  | some i =>
    if due then
      let best := if m.taken.isEmpty then m.best + max (-5 * (i : Int)) (-15) else m.best
      { m with pattern := m.pattern.drop 1, total := m.total + best, taken := i :: m.taken,
               best := -1 }
    else m
  | none => m

/-- Walks the candidate's characters from index `i` on. -/
def Matching.run (m : Matching) (i : Nat) : List Char → Matching
  | [] => m
  | c :: cs => ((m.score i c).take cs.head?).run (i + 1) cs

/-- The score of a candidate for a pattern, if the whole pattern is found in it. -/
def matchScore? (pattern candidate : List Char) : Option Int :=
  let m := Matching.run { pattern } 0 candidate
  if m.taken.length = pattern.length then
    some (m.total + m.taken.length - candidate.length)
  else none

/-- The better of two scored candidates, the later one if they are equal. -/
def better (a : Option (Bytes × Int)) (b : Bytes × Int) : Option (Bytes × Int) :=
  match a with
  | none => some b
  | some a => if a.2 ≤ b.2 then some b else some a

/-- The configurable name that fits a misspelt one best, if any does. -/
def suggestion? (s : Bytes) : Option Bytes :=
  if s.isEmpty then none
  else
    let scored := names.filterMap fun (name, _) =>
      (matchScore? s.chars name.chars).map fun score => (name, score)
    (scored.foldl better none).map Prod.fst

end Format

/-- The report of the findings in a format. -/
def render (setting : Setting) (o : Options) (f : Findings) : Format → Bytes
  | .issues => issueList o f
  | .summary => statistics o f
  | .full => issueList o f ++ statistics o f
  | .json => json setting f
  | .markdown => markdown setting f

end VarLint.Report
