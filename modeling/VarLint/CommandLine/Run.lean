import VarLint.CommandLine.Command
import VarLint.CommandLine.Template
import VarLint.Config.Load
import VarLint.Config.Settings
import VarLint.Report.Format
import VarLint.Watch

/-!
# Running commands

What a command does, as a function of the files, the arguments and the environment: the text it
prints, the files it writes, and the error it ends with. A run of the linter fails if it finds
errors; a strict one fails on any issue, and on a compliance below the threshold.
-/

namespace VarLint.CommandLine

open Config (Setting Table LintSettings)

/-- What a command is run with. -/
structure Invocation where
  disk : Disk
  arguments : List Bytes
  environment : List (Bytes × Bytes)
  /-- Whether reports go to a terminal, and what it shows. -/
  isTerminal : Bool := false
  profile : Report.Profile
  /-- The time as it is printed in reports. -/
  time : Bytes
  /-- Whether the command is interrupted at its start. -/
  cancelled : Bool

/-- Why a command fails. -/
inductive CommandError where
  | flag (cause : FlagError)
  | unknownCommand (word : Bytes)
  | argumentCount (received : Nat)
  | unknownShell (name : Bytes)
  | configExists
  | configNotWritten (cause : DiskError)
  | configFile (cause : Config.FileError)
  | settings (cause : Config.SettingsError)
  | lint (cause : LintError)
  | watch (cause : Watch.Error)
  /-- Issues were reported, and they make the run fail. -/
  | issues

/-- The text of an error. -/
def CommandError.message : CommandError → Bytes
  | flag cause => cause.message
  | unknownCommand word =>
    "unknown command " ++ word.quote ++ " for " ++ programName.quote ++ Command.suggestionText word
  | argumentCount received => "accepts 1 arg(s), received " ++ Bytes.ofNat received
  | unknownShell name =>
    "invalid argument " ++ name.quote ++ " for " ++ (Bytes.quote (programName ++ " completion"))
  | configExists => Config.defaultFile ++ " already exists (use --force to overwrite)"
  | configNotWritten cause =>
    "writing config file: open " ++ Config.defaultFile ++ ": " ++ cause.message
  | configFile cause => cause.message
  | settings cause => cause.message
  | lint cause => "lint failed: " ++ cause.message
  | watch cause => cause.message
  | issues => "lint failed"

/-- What is linted, and how it is reported. -/
structure Task where
  settings : LintSettings
  options : Report.Options
  format : Report.Format
  quiet : Bool
  level : Log.Level

/-- A watch after its first run. -/
structure Watching where
  task : Task
  state : Watch.State

/-- What a command leaves behind. -/
structure Outcome where
  error : Option CommandError := none
  /-- What is printed. -/
  output : Bytes := []
  /-- What is said about the work: log lines and hints. -/
  remarks : Bytes := []
  /-- The files that are written. -/
  written : List (Bytes × Bytes) := []
  watching : Option Watching := none

/-- A command that fails and does nothing else. -/
def Outcome.failed (e : CommandError) : Outcome := { error := some e }

/-! ## Linting -/

/-- Whether findings make a run fail. -/
def isFailure (s : LintSettings) (f : Findings) : Bool :=
  if s.strict then !f.issues.isEmpty || (0 < s.threshold && f.compliance < s.threshold)
  else 0 < f.errorCount

/-- What is said about a compliance below the threshold of a strict run without issues. -/
def thresholdRemark (s : LintSettings) (f : Findings) : Bytes :=
  if s.strict && f.issues.isEmpty && isFailure s f then
    "\nStrict mode: compliance " ++ Decimal.fixed 1 f.compliance ++ "% is below threshold "
      ++ Decimal.fixed 1 s.threshold ++ "%\n"
  else []

/-- How findings are reported. -/
def reportOptions (i : Invocation) (s : LintSettings) : Report.Options :=
  let colors := Report.wantsColors s.colors i.isTerminal fun name => i.environment.lookup name
  { printLines := s.printLines
    printLinter := s.printLinter
    verbose := s.verbose
    paint := if colors then some i.profile else none }

/-- What is said about a format that is not known. -/
def formatLog (name : Bytes) : List Log.Entry :=
  if Report.Format.isValid name then []
  else
    let suggestion := (Report.Format.suggestion? name).map fun s =>
      (Bytes.ofString "did_you_mean", s)
    [⟨.warning, "unknown output format, using issues", ("format", name) :: suggestion.toList⟩]

/-- The report of findings; a quiet run has none. -/
def report (i : Invocation) (task : Task) (f : Findings) : Bytes :=
  if task.quiet then []
  else Report.render ⟨i.disk.workingDirectory, i.time⟩ task.options f task.format

/-- Lints once. -/
def lintOnce (i : Invocation) (task : Task) (log : List Log.Entry) : Outcome :=
  let run := Lint.run i.disk task.settings.job i.cancelled {}
  let remarks := Log.render task.level (log ++ run.log)
  match run.answer with
  | .error e => { error := some (.lint e), remarks }
  | .ok f =>
    { error := if isFailure task.settings f then some .issues else none
      output := report i task f
      remarks := remarks ++ (if task.quiet then [] else thresholdRemark task.settings f) }

/-- Starts a watch with a cache. Its findings never make it fail. -/
def startWatch (i : Invocation) (task : Task) (cache : Cache) (log : List Log.Entry) : Outcome :=
  let (answer, state, more) :=
    Watch.first i.disk task.settings.job i.cancelled { cache := some cache }
  let remarks := Log.render task.level (log ++ more)
  match answer with
  | .error e => { error := some (.watch e), remarks }
  | .ok none => { remarks }
  | .ok (some f) => { output := report i task f, remarks, watching := some { task, state } }

/-- Lints as the settings say. -/
def lint (i : Invocation) (t : Table) : Outcome :=
  match LintSettings.ofTable t with
  | .error e => .failed (.settings e)
  | .ok s =>
    let quiet := Setting.quiet.bool false t
    let name := Setting.outputFormat.text [] t
    let task : Task :=
      { settings := s, options := reportOptions i s, format := Report.Format.choose name quiet
        quiet, level := Config.levelOf t }
    let log := formatLog name ++ [⟨.debug, "linting", [("paths", Log.listText s.paths)]⟩]
    if Setting.watch.bool false t then
      startWatch i task (.empty (Setting.cacheSize.int 0 t)) log
    else lintOnce i task log

/-- The configuration file that the flags name. -/
def configPath (p : Parsed) : Bytes :=
  let named := ((p.values.lookup Command.configFlag.name).map Config.Value.asText).getD []
  if named.isEmpty then Config.defaultFile else named

/-- The settings of a command whose flags have been read; `patterns` are linted instead of the
configured ones if there are any. -/
def loadSettings (i : Invocation) (p : Parsed) (patterns : List Bytes) :
    Except Config.FileError Table :=
  (Config.load i.disk (configPath p) i.environment p.values).map fun t =>
    if patterns.isEmpty then t else Config.put t Setting.paths.flag (.list (patterns.map .text))

/-- Lints with the settings of a file, of the environment and of the flags. -/
def lintWith (i : Invocation) (p : Parsed) (patterns : List Bytes) : Outcome :=
  match loadSettings i p patterns with
  | .error e => .failed (.configFile e)
  | .ok t => lint i t

/-! ## Other commands -/

/-- Writes a configuration file. One that is there is overwritten only by force. -/
def writeConfig (i : Invocation) (p : Parsed) : Outcome :=
  let force := ((p.values.lookup Command.forceFlag.name).map Config.Value.asBool).getD false
  match i.disk.stat Config.defaultFile with
  | .error _ =>
    { output := "Created " ++ Config.defaultFile ++ "\n"
      written := [(Config.defaultFile, configTemplate)] }
  | .ok s =>
    if !force then .failed .configExists
    else if s.isDirectory then .failed (.configNotWritten .isDirectory)
    else
      { output := "Created " ++ Config.defaultFile ++ "\n"
        written := [(Config.defaultFile, configTemplate)] }

/-- The version of the program. -/
def version : Bytes := "dev"

/-- The shells for which completion is offered. -/
def shells : List Bytes := ["bash", "zsh", "fish", "powershell"]

/-- The names of all commands, to complete the first word after the program's name. -/
def completionScript : Bytes :=
  "complete -W \"" ++ Bytes.join " " (Command.named.map Command.name) ++ "\" " ++
    programName ++ "\n"

/-- Prints what completes the first word, if one of the shells is named. -/
def completion (arguments : List Bytes) : Outcome :=
  match arguments with
  | [shell] =>
    if shells.contains shell then { output := completionScript } else .failed (.unknownShell shell)
  | _ => .failed (.argumentCount arguments.length)

/-- What the program does, in a few lines. -/
def about : Bytes :=
  "Flag declarations whose values are hard-coded literals instead of
variable references ($scss, @less, var(--custom), map-get(...)).
Only properties matched by the configured pattern are checked.

Commands: " ++ Bytes.join ", " (Command.named.map Command.name) ++ "\n"

/-- Runs a command whose flags have been read. -/
def runCommand (i : Invocation) (p : Parsed) : Command → Outcome
  | .root => lintWith i p []
  | .lint => lintWith i p p.arguments
  | .init => writeConfig i p
  | .completion => completion p.arguments
  | .version => { output := programName ++ " " ++ version ++ "\n" }
  | .help => { output := about }

/-- Runs the command that the arguments name. -/
def run (i : Invocation) : Outcome :=
  match Command.find i.arguments with
  | .error word => .failed (.unknownCommand word)
  | .ok (command, arguments) =>
    match parse (Command.helpFlag :: command.flags) {} arguments with
    | .error e => .failed (.flag e)
    | .ok p =>
      if ((p.values.lookup Command.helpFlag.name).map Config.Value.asBool).getD false then
        { output := about }
      else runCommand i p command

/-! ## The files a command looks at -/

/-- The command and its flags, if they can be read. -/
def parsed? (arguments : List Bytes) : Option (Command × Parsed) :=
  match Command.find arguments with
  | .error _ => none
  | .ok (command, rest) =>
    (parse (Command.helpFlag :: command.flags) {} rest).toOption.map fun p => (command, p)

/-- The configuration file that the arguments name. -/
def configFileOf (arguments : List Bytes) : Bytes :=
  ((parsed? arguments).map fun (_, p) => configPath p).getD Config.defaultFile

/-- The paths below which the files of a run are, on a disk that holds the configuration file. -/
def basesOf (i : Invocation) : List Bytes :=
  match parsed? i.arguments with
  | none => []
  | some (command, p) =>
    if command ≠ .root && command ≠ .lint then []
    else
      let patterns := if command = .lint then p.arguments else []
      match loadSettings i p patterns with
      | .error _ => []
      | .ok t => (Setting.paths.texts Config.defaultPaths t).map fun s => (Glob.split s).1

/-! ## The end of a command -/

/-- The code with which the program ends. -/
def Outcome.exitCode (o : Outcome) : Nat := if o.error.isSome then 1 else 0

/-- The line about the error with which the program ends. Issues have been reported already. -/
def Outcome.errorLine (o : Outcome) : Bytes :=
  match o.error with
  | none => []
  | some .issues => []
  | some e => "Error: " ++ e.message ++ "\n"

/-! ## Going on with a watch -/

/-- The report of a later run, below a headline with the time of day. -/
def Task.reportAgain (task : Task) (i : Invocation) (clock : Bytes) (f : Findings) : Bytes :=
  if task.quiet then []
  else "\n--- " ++ clock ++ ": re-linted after change ---\n" ++ report i task f

/-- Goes on with a watch when the disk has been looked at again: what is printed, what is said, and
the watch from there on. -/
def Watching.poll (w : Watching) (i : Invocation) (clock : Bytes) : Bytes × Bytes × Watching :=
  let turn := Watch.run w.task.settings.job w.state (w.state.round [i.disk])
  (turn.findings.flatMap (w.task.reportAgain i clock), Log.render w.task.level turn.log,
    { w with state := turn.state })

end VarLint.CommandLine
