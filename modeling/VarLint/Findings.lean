import VarLint.PropertyCategory
import VarLint.Rule
import VarLint.Stylesheet.Declaration
import VarLint.Tally

/-!
# Findings

What checking a list of declarations finds: issues, statistics, the literal values that are rejected
most often, and the categories they are in.
-/

namespace VarLint

/-- A rejected declaration as it is reported. -/
structure Issue where
  linter : Bytes
  text : Bytes
  severity : Bytes
  source : List Bytes
  file : Bytes
  line : Int
  column : Int
  property : Bytes
  value : Bytes
  literals : List Bytes
  deriving DecidableEq, Repr

/-- The names of the two severities. -/
def Severity.error : Bytes := "error"

@[inherit_doc Severity.error]
def Severity.warning : Bytes := "warning"

/-- Whether a severity can be configured. -/
def Severity.isValid (s : Bytes) : Bool := s == Severity.error || s == Severity.warning

/-- A rejected value with the number of its occurrences and the properties it was given to. -/
structure LiteralCount where
  value : Bytes
  occurrences : Int
  properties : List Bytes
  deriving DecidableEq, Repr

/-- The result of a run. -/
structure Findings where
  filesScanned : Int := 0
  filesSkipped : Int := 0
  found : Int := 0
  checked : Int := 0
  acceptedByVariable : Int := 0
  acceptedByException : Int := 0
  violations : Int := 0
  /-- The accepted share of the checked declarations, in percent. -/
  compliance : Float := 0
  issues : List Issue := []
  issuesBySeverity : List (Bytes × List Issue) := []
  errorCount : Int := 0
  warningCount : Int := 0
  /-- Issues that were dropped because of limits. -/
  truncated : Int := 0
  topLiterals : List LiteralCount := []
  violationsByCategory : List (Bytes × Int) := []
  warnings : List Bytes := []

/-- How issues are graded and how many are kept; a limit that is not positive means no limit. -/
structure CheckOptions where
  /-- The severity of issues; empty for an error. -/
  severity : Bytes := []
  maxIssues : Int := 0
  maxSame : Int := 0
  deriving DecidableEq, Repr

/-- The severity given to issues. -/
def CheckOptions.effectiveSeverity (o : CheckOptions) : Bytes :=
  if o.severity.isEmpty then Severity.error else o.severity

/-- The issue of a rejected declaration. -/
def Issue.of (severity : Bytes) (d : Declaration) (v : Verdict) : Issue :=
  { linter := Rule.name
    text := Rule.complaint d.property
    severity
    source := if d.lineText.isEmpty then [] else [d.lineText]
    file := d.file
    line := d.position.line
    column := d.position.column
    property := d.property
    value := d.value
    literals := v.literals }

namespace Findings

/-- The checked declarations with their verdicts. -/
def judged (rule : Rule) (ds : List Declaration) : List (Declaration × Verdict) :=
  ds.filterMap fun d => (rule.check? d.property d.value).map fun v => (d, v)

/-- The judged declarations that are not accepted. -/
def rejected (js : List (Declaration × Verdict)) : List (Declaration × Verdict) :=
  js.filter fun (_, v) => !v.accepted

/-- The first issues of each text, at most `n` of them; `kept` holds the texts of those kept so
far. -/
def atMostSame (n : Nat) : List Bytes → List Issue → List Issue
  | _, [] => []
  | kept, i :: rest =>
    if kept.count i.text < n then i :: atMostSame n (i.text :: kept) rest
    else atMostSame n kept rest

/-- The issues that the limits leave. -/
def limit (o : CheckOptions) (issues : List Issue) : List Issue :=
  let first := if 0 < o.maxIssues then issues.take o.maxIssues.toNat else issues
  if 0 < o.maxSame then atMostSame o.maxSame.toNat [] first else first

/-- How many rejected values are listed. -/
def topLimit : Nat := 10

/-- The most frequent rejected values, with the properties of each in byte order. -/
def topLiteralsOf (ds : List Declaration) : List LiteralCount :=
  ((Tally.ranked (ds.map Declaration.value)).take topLimit).map fun (value, n) =>
    { value
      occurrences := n
      properties :=
        (Tally.distinct ((ds.filter fun d => d.value == value).map Declaration.property)).mergeSort
          Tally.bytesLe }

/-- The number of properties in each category that occurs, the largest number first. -/
def categoryCounts (properties : List Bytes) : List (Bytes × Nat) :=
  Tally.ranked (properties.map fun p => (PropertyCategory.ofProperty p).name)

/-- The issues of each severity that occurs. -/
def bySeverity (issues : List Issue) : List (Bytes × List Issue) :=
  (Tally.distinct (issues.map Issue.severity)).map fun s =>
    (s, issues.filter fun i => i.severity == s)

/-- The number of issues of a severity. -/
def countSeverity (s : Bytes) (issues : List Issue) : Nat :=
  issues.countP fun i => i.severity == s

/-- The accepted share in percent; everything complies where nothing is checked. -/
def complianceOf (accepted checked : Nat) : Float :=
  if 0 < checked then Float.ofNat accepted / Float.ofNat checked * 100 else 100

/-- What is said about a run that checked nothing. -/
def warningsOf (found checked : Nat) : List Bytes :=
  if found = 0 then ["No declarations found - check the lint paths"]
  else if checked = 0 then ["No declaration matched the properties pattern"]
  else []

/-- Checks a list of declarations. -/
def ofDeclarations (rule : Rule) (o : CheckOptions) (ds : List Declaration) : Findings :=
  let js := judged rule ds
  let bad := rejected js
  let byVariable := js.countP fun (_, v) => v.allVariables
  let byException := js.countP fun (_, v) => !v.allVariables && v.excepted
  let all := bad.map fun (d, v) => Issue.of o.effectiveSeverity d v
  let issues := limit o all
  let badDeclarations := bad.map Prod.fst
  { found := ds.length
    checked := js.length
    acceptedByVariable := byVariable
    acceptedByException := byException
    violations := bad.length
    compliance := complianceOf (byVariable + byException) js.length
    issues
    issuesBySeverity := bySeverity issues
    errorCount := countSeverity Severity.error issues
    warningCount := countSeverity Severity.warning issues
    truncated := (all.length : Int) - issues.length
    topLiterals := topLiteralsOf badDeclarations
    violationsByCategory :=
      (categoryCounts (badDeclarations.map Declaration.property)).map fun (c, n) => (c, (n : Int))
    warnings := warningsOf ds.length js.length }

/-- Checks one style sheet. -/
def ofSource (rule : Rule) (o : CheckOptions) (filename content : Bytes) : Findings :=
  { ofDeclarations rule o (Stylesheet.declarations filename content) with filesScanned := 1 }

end Findings

end VarLint
