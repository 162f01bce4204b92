import VarLint.Report.Basic

/-!
# The list of issues

One block per issue, ordered by file, line and column: the place and the complaint, the source line
with a caret below the property, and the literals on request. A summary closes the list.
-/

namespace VarLint.Report

/-- Whether issue `a` comes before `b`, or has the same place. -/
def placeLe (a b : Issue) : Bool :=
  if a.file = b.file then
    if a.line = b.line then a.column ≤ b.column else a.line ≤ b.line
  else Tally.bytesLe a.file b.file

/-- The issues by place; those of one place keep their order. -/
def sortedIssues (issues : List Issue) : List Issue := issues.mergeSort placeLe

/-- A caret under the given column of a line, with tabs kept so that it lines up at any tab width.
The column counts bytes from one; a column that is not positive points at the start, one behind the
line at its end. -/
def caret (sourceLine : Bytes) (column : Int) : Bytes :=
  if column ≤ 0 then "^"
  else
    let padding : Bytes := (Bytes.chars (sourceLine.take (column - 1).toNat)).map fun c =>
      if c == '\t' then 0x09 else 0x20
    padding ++ "^"

/-- The line with the place of an issue, the complaint and the linter. -/
def placeLine (o : Options) (i : Issue) : Bytes :=
  let place := i.file ++ ":" ++ Bytes.ofInt i.line ++ ":" ++ Bytes.ofInt i.column ++ ":"
  let linter : Bytes := if o.printLinter then " (" ++ i.linter ++ ")" else []
  let text : Bytes := if i.severity = Severity.warning then "warning: " ++ i.text else i.text
  Style.cyan.render o.paint place ++ " " ++ text ++ Style.gray.render o.paint linter

/-- The source of an issue, with a caret below. -/
def sourceLines (o : Options) (i : Issue) : List Bytes :=
  match i.source with
  | first :: _ =>
    if o.printLines then
      i.source.map (fun l => 0x09 :: l)
        ++ ["\t" ++ Style.yellow.render o.paint (caret first i.column)]
    else []
  | [] => []

/-- The literals of an issue. -/
def shownLiterals (o : Options) (i : Issue) : List Bytes :=
  if o.verbose && !i.literals.isEmpty then
    ["\t" ++ Style.gray.render o.paint ("literals: " ++ quotedList i.literals)]
  else []

/-- The block of one issue. -/
def issueBlock (o : Options) (i : Issue) : Bytes :=
  (placeLine o i :: sourceLines o i ++ shownLiterals o i).flatMap line

/-- The line that counts the issues. -/
def summaryHeader (f : Findings) : Bytes :=
  let errors := Findings.countSeverity Severity.error f.issues
  let warnings := Findings.countSeverity Severity.warning f.issues
  let both : List Bytes :=
    if 0 < errors && 0 < warnings then
      [counted errors "error" "errors" ++ ", " ++ counted warnings "warning" "warnings"]
    else []
  let dropped : List Bytes :=
    if 0 < f.truncated then [counted f.truncated "issue" "issues" ++ " truncated"] else []
  let details := both ++ dropped
  let suffix : Bytes := if details.isEmpty then [] else " (" ++ Bytes.join "; " details ++ ")"
  counted f.issues.length "issue" "issues" ++ suffix

/-- What is said below a list that is not empty. -/
def hint : Bytes := "Hint: Run with --output-format full to see statistics and top literals"

/-- The summary below the list: the number of issues, in total and for each linter. -/
def summary (o : Options) (f : Findings) : Bytes :=
  let linters := f.issues.map Issue.linter
  line [] ++ line (summaryHeader f ++ ":")
    ++ ((Tally.distinct linters).mergeSort Tally.bytesLe).flatMap (fun l =>
      line ("* " ++ l ++ ": " ++ Bytes.ofNat (linters.count l)))
    ++ (if f.issues.isEmpty then [] else line [] ++ line (Style.gray.render o.paint hint))

/-- The list of issues with its summary. -/
def issueList (o : Options) (f : Findings) : Bytes :=
  (sortedIssues f.issues).flatMap (issueBlock o) ++ summary o f

end VarLint.Report
