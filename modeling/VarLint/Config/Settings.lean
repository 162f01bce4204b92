import VarLint.Config.Layer
import VarLint.Lint
import VarLint.Log
import VarLint.Report.Basic

/-!
# Settings

The settings the program knows. Each has a name on the command line, which is looked for first, and
a path in configuration files, and a default for when neither is there.
-/

namespace VarLint.Config

/-- Where a setting is found: its name on the command line, and its path in a file. -/
structure Setting where
  flag : Bytes
  path : Bytes
  deriving DecidableEq, Repr

namespace Setting

/-- A setting with one name for both. -/
def shared (name : Bytes) : Setting := ⟨name, name⟩

/-- A setting of the rule. -/
def ofRule (name : Bytes) : Setting := ⟨name, "rule." ++ name⟩

/-- A setting of linting. -/
def ofLint (name : Bytes) : Setting := ⟨name, "lint." ++ name⟩

/-- The value of a setting, if it is there. -/
def value? (s : Setting) (t : Table) : Option Value := (find? s.flag t).or (find? s.path t)

/-- The text of a setting. An empty text is as good as none. -/
def text (s : Setting) (default : Bytes) (t : Table) : Bytes :=
  let texts := [s.flag, s.path].map fun path => ((find? path t).map Value.asText).getD []
  (texts.find? fun s => !s.isEmpty).getD default

/-- The texts of a setting. An empty list is as good as none. -/
def texts (s : Setting) (default : List Bytes) (t : Table) : List Bytes :=
  let lists := [s.flag, s.path].map fun path => ((find? path t).map Value.asTexts).getD []
  (lists.find? fun l => !l.isEmpty).getD default

/-- The truth value of a setting. -/
def bool (s : Setting) (default : Bool) (t : Table) : Bool :=
  ((s.value? t).map Value.asBool).getD default

/-- The integer of a setting. -/
def int (s : Setting) (default : Int) (t : Table) : Int :=
  ((s.value? t).map Value.asInt).getD default

/-- The floating-point number of a setting. -/
def float (s : Setting) (default : Float) (t : Table) : Float :=
  ((s.value? t).map Value.asFloat).getD default

/-! ## The known settings -/

/-- The pattern of the properties that are checked. -/
def properties : Setting := .ofRule "properties"

/-- The pattern of the literals that are allowed. -/
def exceptionValues : Setting := .ofRule "exception-values"

/-- The severity of issues. -/
def severity : Setting := .ofRule "severity"

/-- The patterns of the files that are linted. -/
def paths : Setting := .ofLint "paths"

/-- How many files are loaded at the same time; zero for as many as there are processors. -/
def concurrency : Setting := .ofLint "concurrency"

/-- Whether any issue makes a run fail. -/
def strict : Setting := .ofLint "strict"

/-- The least compliance, in percent, with which a strict run does not fail. -/
def threshold : Setting := .ofLint "threshold"

/-- The largest number of issues that are listed. -/
def maxIssues : Setting := .ofLint "max-issues-per-linter"

/-- The largest number of issues with the same text that are listed. -/
def maxSame : Setting := .ofLint "max-same-issues"

/-- Whether the lines of issues are shown. -/
def printLines : Setting := .ofLint "print-lines"

/-- Whether the name of the rule is shown. -/
def printLinter : Setting := .ofLint "print-linter-name"

/-- The format of the report. -/
def outputFormat : Setting := .ofLint "output-format"

/-- Whether files are linted again when they change. -/
def watch : Setting := .ofLint "watch"

/-- How many files are cached in a watch. -/
def cacheSize : Setting := .ofLint "cache-size"

/-- Whether more is said. -/
def verbose : Setting := .shared "verbose"

/-- Whether nothing but errors is said. -/
def quiet : Setting := .shared "quiet"

/-- Whether colours are asked for. -/
def color : Setting := .shared "color"

/-- The level from which on log entries are printed. -/
def logLevel : Setting := .shared "log-level"

end Setting

/-- The patterns that are linted by default. -/
def defaultPaths : List Bytes := ["**/*.\x7bcss,scss,less\x7d"]

/-! ## Linting -/

/-- The settings of a run. -/
structure LintSettings where
  rule : Rule
  paths : List Bytes
  severity : Bytes
  concurrency : Int
  verbose : Bool
  strict : Bool
  threshold : Float
  maxIssues : Int
  maxSame : Int
  printLines : Bool
  printLinter : Bool
  colors : Bool

/-- Why settings cannot be used. -/
inductive SettingsError where
  | rule (cause : Rule.Error)
  | severity (name : Bytes)

/-- The text of an error. -/
def SettingsError.message : SettingsError → Bytes
  | rule cause => "invalid rule configuration: " ++ cause.message
  | severity name =>
    "invalid rule configuration: unknown severity " ++ name.quote ++ " (want error or warning)"

/-- The settings of a run. -/
def LintSettings.ofTable (t : Table) : Except SettingsError LintSettings :=
  match Rule.ofLiterals (Setting.properties.text [] t) (Setting.exceptionValues.text [] t) with
  | .error e => .error (.rule e)
  | .ok rule =>
    let name := Setting.severity.text Severity.error t
    if !Severity.isValid name then .error (.severity name)
    else .ok {
      rule
      paths := Setting.paths.texts defaultPaths t
      severity := name
      concurrency := Setting.concurrency.int 0 t
      verbose := Setting.verbose.bool false t
      strict := Setting.strict.bool false t
      threshold := Setting.threshold.float 0 t
      maxIssues := Setting.maxIssues.int 0 t
      maxSame := Setting.maxSame.int 0 t
      printLines := Setting.printLines.bool true t
      printLinter := Setting.printLinter.bool true t
      colors := Setting.color.bool false t }

/-- What a run checks. -/
def LintSettings.job (s : LintSettings) : LintJob :=
  ⟨some s.rule, s.paths, { severity := s.severity, maxIssues := s.maxIssues, maxSame := s.maxSame }⟩

/-- The level from which on log entries are printed: a level that is named wins, then a quiet run,
which prints errors only, then a verbose one. A name that is unknown stands for the default. -/
def levelOf (t : Table) : Log.Level :=
  let name := Setting.logLevel.text [] t
  if !name.isEmpty then (Log.Level.ofName? name).getD .warning
  else if Setting.quiet.bool false t then .error
  else if Setting.verbose.bool false t then .debug
  else .warning

end VarLint.Config
