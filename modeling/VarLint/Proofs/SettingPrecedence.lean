import VarLint.CommandLine.Run
import VarLint.Proofs.SettingLayers

/-!
# The precedence of settings

Flags come before variables, variables before the file, and the file before the default, from the
command line down to what a run is started with.

* `Parsed.OfFlags.parse`: what is read from the arguments are the values of flags
* `exists_loadSettings`, `exists_reads`: the table of a command has the values of the layers
* `Layers.Reads.ofTable`: so have the settings of a run
* `lintWith_precedence`: **a run is started with the effective values of its options**
-/

namespace VarLint.CommandLine

open Config

theorem isFlat_read {old : Option Value} {text : Bytes} {kind : FlagKind} {v : Value}
    (h : kind.read old text = .ok v) : IsFlat v := by
  cases kind with
  | text =>
    cases h
    trivial
  | _ =>
    simp only [FlagKind.read] at h
    split at h
    · cases h
      trivial
    · cases h

/-- The values that were read are those of flags, one for each flag, and no tables. -/
structure Parsed.OfFlags (flags : List Flag) (p : Parsed) : Prop where
  nodup : (names p.values).Nodup
  known : ∀ e ∈ p.values, (∃ f ∈ flags, f.name = e.1) ∧ IsFlat e.2

section

variable {flags : List Flag} {p q : Parsed}

theorem Parsed.OfFlags.set (hp : p.OfFlags flags) {f : Flag} (hf : f ∈ flags) {text : Bytes}
    (h : p.set f text = .ok q) : q.OfFlags flags := by
  rw [Parsed.set] at h
  split at h
  case h_2 => cases h
  case h_1 v hread =>
    cases h
    constructor
    · exact nodup_cons_without hp.nodup f.name
    · intro e he
      rcases List.mem_cons.1 he with rfl | he
      · exact ⟨⟨f, hf, rfl⟩, isFlat_read hread⟩
      · exact hp.known e (List.mem_of_mem_filter he)

theorem Parsed.OfFlags.letters {s : Bytes} (hp : p.OfFlags flags) (h : letters flags p s = .ok q) :
    q.OfFlags flags := by
  fun_induction CommandLine.letters flags p s with
  | case1 p =>
    cases h
    exact hp
  | case2 => cases h
  | case3 p b rest f hfind hvalue => exact hp.set (List.mem_of_find?_eq_some hfind) h
  | case4 p b rest f hfind hvalue p' hset ih =>
    exact ih (hp.set (List.mem_of_find?_eq_some hfind) hset) h
  | case5 => cases h

/-- **Reading arguments keeps the values those of flags**, whatever the arguments are. -/
theorem Parsed.OfFlags.parse {arguments : List Bytes} (hp : p.OfFlags flags)
    (h : parse flags p arguments = .ok q) : q.OfFlags flags := by
  fun_induction CommandLine.parse flags p arguments with
  | case1 p =>
    cases h
    exact hp
  | case2 p a rest ha ih => exact ih ⟨hp.nodup, hp.known⟩ h
  | case3 p a rest ha =>
    cases h
    exact ⟨hp.nodup, hp.known⟩
  | case5 p a rest s ha p' hletters ih => exact ih (hp.letters hletters) h
  | case8 p a rest name value ha f hfind s hs p' hset ih =>
    exact ih (hp.set (List.mem_of_find?_eq_some hfind) hset) h
  | case11 p a name value ha f hfind hs s more p' hset ih =>
    exact ih (hp.set (List.mem_of_find?_eq_some hfind) hset) h
  | _ => cases h

end

/-- What the flags of a command were given is a layer of its own. -/
theorem isFlagTable_of_parse {command : Command} {arguments : List Bytes} {p : Parsed}
    (h : parse (Command.helpFlag :: command.flags) {} arguments = .ok p) :
    IsFlagTable p.values := by
  have hstart : ({} : Parsed).OfFlags (Command.helpFlag :: command.flags) :=
    ⟨by simp [names], by simp⟩
  have hp := hstart.parse h
  have hall : ∀ f ∈ Command.helpFlag :: command.flags, f.name ∉ sections ∧ point ∉ f.name := by
    cases command <;> decide
  have hnames : ∀ n ∈ names p.values, n ∉ sections ∧ point ∉ n := by
    intro n hn
    obtain ⟨e, he, rfl⟩ := List.mem_map.1 hn
    obtain ⟨⟨f, hf, hname⟩, -⟩ := hp.known e he
    exact hname ▸ hall f hf
  exact ⟨hp.nodup, fun e he => (hp.known e he).2, fun n hn => (hnames n hn).1,
    fun n hn => (hnames n hn).2⟩

section

variable {i : Invocation} {p : Parsed} {file : Table}

/-- **The settings of a command are the layers**, whatever patterns are linted instead of the
configured ones. -/
theorem exists_loadSettings (hload : loadFile i.disk (configPath p) = .ok file)
    (hfile : PlainFile file) (hflags : IsFlagTable p.values) (patterns : List Bytes) :
    ∃ t, loadSettings i p patterns = .ok t ∧ ∀ s ∈ Setting.documented,
      find? s.flag t = find? s.flag (ofLayers file (ofEnvironment i.environment) p.values) ∧
        find? s.path t = find? s.path (ofLayers file (ofEnvironment i.environment) p.values) := by
  have hother : ∀ s ∈ Setting.documented, s.flag ≠ Setting.paths.flag := by decide
  have hloaded : loadSettings i p patterns =
      .ok (if patterns.isEmpty then ofLayers file (ofEnvironment i.environment) p.values
        else put (ofLayers file (ofEnvironment i.environment) p.values) Setting.paths.flag
          (.list (patterns.map .text))) := by
    rw [loadSettings, load, hload]
    rfl
  refine ⟨_, hloaded, fun s hs => ?_⟩
  cases patterns.isEmpty with
  | true => exact ⟨rfl, rfl⟩
  | false =>
    exact find?_put_other (by decide) (by decide) hs (hother s hs) (nodup_ofLayers _ _ _)
      (path_not_mem_ofLayers i.environment hfile hflags hs) _

end

/-! ## Effective values -/

/-- The text of a value; nothing is as good as an empty text. -/
def textOf (v : Option Value) : Bytes := (v.map Value.asText).getD []

/-- Where settings come from: the values of flags, the variables and the file. -/
structure Layers where
  flags : Table
  environment : List (Bytes × Bytes)
  file : Table

namespace Layers

/-- The value of an option: that of its flag, or else what stands below. -/
def value? (l : Layers) (flag path : Bytes) : Option Value :=
  (l.flags.lookup flag).or (belowFlags? l.file l.environment path)

/-- The integer of an option. -/
def int (l : Layers) (flag path : Bytes) (default : Int) : Int :=
  ((l.value? flag path).map Value.asInt).getD default

/-- The floating-point number of an option. -/
def float (l : Layers) (flag path : Bytes) (default : Float) : Float :=
  ((l.value? flag path).map Value.asFloat).getD default

/-- The truth value of an option. -/
def bool (l : Layers) (flag path : Bytes) (default : Bool) : Bool :=
  ((l.value? flag path).map Value.asBool).getD default

/-- The text of an option: that of its flag if it is not empty, or else what stands below if that is
not empty. -/
def text (l : Layers) (flag path default : Bytes) : Bytes :=
  let given := textOf (l.flags.lookup flag)
  let below := textOf (belowFlags? l.file l.environment path)
  if given ≠ [] then given else if below ≠ [] then below else default

/-- A table has the values of the layers, in every conversion and for every default. -/
structure Reads (l : Layers) (t : Table) : Prop where
  value : ∀ s ∈ Setting.scalars, s.value? t = l.value? s.flag s.path
  text : ∀ s ∈ Setting.sectionTexts, ∀ default, s.text default t = l.text s.flag s.path default

variable {l : Layers} {t : Table} {s : Setting}

theorem Reads.int (h : l.Reads t) (hs : s ∈ Setting.scalars) (default : Int) :
    s.int default t = l.int s.flag s.path default := by
  rw [Setting.int, h.value s hs, Layers.int]

theorem Reads.float (h : l.Reads t) (hs : s ∈ Setting.scalars) (default : Float) :
    s.float default t = l.float s.flag s.path default := by
  rw [Setting.float, h.value s hs, Layers.float]

theorem Reads.bool (h : l.Reads t) (hs : s ∈ Setting.scalars) (default : Bool) :
    s.bool default t = l.bool s.flag s.path default := by
  rw [Setting.bool, h.value s hs, Layers.bool]

end Layers

theorem find?_pair_nonempty (a b default : Bytes) :
    ([a, b].find? fun x => !x.isEmpty).getD default =
    if a ≠ [] then a else if b ≠ [] then b else default := by
  cases a <;> cases b <;> rfl

/-- **The settings of a command have the values of the layers.** -/
theorem exists_reads {i : Invocation} {p : Parsed} {file : Table}
    (hload : loadFile i.disk (configPath p) = .ok file) (hfile : PlainFile file)
    (henv : PlainEnvironment i.environment) (hflags : IsFlagTable p.values)
    (patterns : List Bytes) :
    ∃ t, loadSettings i p patterns = .ok t ∧ Layers.Reads ⟨p.values, i.environment, file⟩ t := by
  have hnodup := nodup_of_loadFile hload
  obtain ⟨t, ht, hsame⟩ := exists_loadSettings hload hfile hflags patterns
  refine ⟨t, ht, fun s hs => ?_, fun s hs default => ?_⟩
  · have hs : s ∈ Setting.documented := List.mem_append_left _ hs
    rw [Setting.value?, (hsame s hs).1, (hsame s hs).2]
    exact value?_ofLayers hnodup hfile henv hflags hs
  · have hsection := Setting.isSectioned_of_sectionTexts s hs
    have hs : s ∈ Setting.documented := List.mem_append_right _ hs
    obtain ⟨hflag, hpath⟩ := find?_sectioned hnodup hfile henv hflags hs hsection
    rw [Setting.text, List.map_cons, List.map_cons, List.map_nil, (hsame s hs).1,
      (hsame s hs).2, hflag, hpath]
    exact find?_pair_nonempty _ _ default

/-- The rule that the layers describe. -/
def Layers.rule (l : Layers) : Except Rule.Error Rule :=
  Rule.ofLiterals (l.text "properties" "rule.properties" [])
    (l.text "exception-values" "rule.exception-values" [])

/-- The severity that the layers name. -/
def Layers.severity (l : Layers) : Bytes := l.text "severity" "rule.severity" "error"

/-- The settings of a run are the effective values of their options. -/
structure Effective (l : Layers) (s : LintSettings) : Prop where
  rule : l.rule = .ok s.rule
  severity : s.severity = l.severity
  concurrency : s.concurrency = l.int "concurrency" "lint.concurrency" 0
  maxIssues : s.maxIssues = l.int "max-issues-per-linter" "lint.max-issues-per-linter" 0
  maxSame : s.maxSame = l.int "max-same-issues" "lint.max-same-issues" 0
  threshold : s.threshold = l.float "threshold" "lint.threshold" 0
  strict : s.strict = l.bool "strict" "lint.strict" false
  printLines : s.printLines = l.bool "print-lines" "lint.print-lines" true
  printLinter : s.printLinter = l.bool "print-linter-name" "lint.print-linter-name" true
  verbose : s.verbose = l.bool "verbose" "verbose" false
  colors : s.colors = l.bool "color" "color" false

/-- **The settings of a table that has the values of the layers.** -/
theorem Layers.Reads.ofTable {l : Layers} {t : Table} (h : l.Reads t) :
    (∀ e, l.rule = .error e → LintSettings.ofTable t = .error (.rule e)) ∧
      (∀ rule, l.rule = .ok rule → Severity.isValid l.severity = false →
        LintSettings.ofTable t = .error (.severity l.severity)) ∧
      ∀ rule, l.rule = .ok rule → Severity.isValid l.severity = true →
        ∃ s, LintSettings.ofTable t = .ok s ∧ Effective l s := by
  have hrule : Rule.ofLiterals (Setting.properties.text [] t) (Setting.exceptionValues.text [] t) =
      l.rule := by
    rw [h.text _ (by decide), h.text _ (by decide)]
    rfl
  have hseverity : Setting.severity.text Severity.error t = l.severity := h.text _ (by decide) _
  refine ⟨fun e he => ?_, fun rule hok hbad => ?_, fun rule hok hgood => ?_⟩
  · rw [LintSettings.ofTable, hrule, he]
  · rw [LintSettings.ofTable, hrule, hok]
    simp [hseverity, hbad]
  · rw [LintSettings.ofTable, hrule, hok]
    simp only [hseverity, hgood, Bool.not_true, Bool.false_eq_true, if_false]
    exact ⟨_, rfl,
      { rule := hok
        severity := rfl
        concurrency := h.int (by decide) 0
        maxIssues := h.int (by decide) 0
        maxSame := h.int (by decide) 0
        threshold := h.float (by decide) 0
        strict := h.bool (by decide) false
        printLines := h.bool (by decide) true
        printLinter := h.bool (by decide) true
        verbose := h.bool (by decide) false
        colors := h.bool (by decide) false }⟩

/-- **The precedence of settings.** A run is started with the effective values of its options: a
number or a switch is what its flag says, or else its variable, or else the file, and its default if
none of them has it; a text of a section is what its flag says if that is not empty, or else what
its variable or, without one, the file says if that is not empty, or else its default. -/
theorem lintWith_precedence (i : Invocation) (command : Command) (arguments patterns : List Bytes)
    (p : Parsed) (file : Table)
    (hparse : parse (Command.helpFlag :: command.flags) {} arguments = .ok p)
    (hload : loadFile i.disk (configPath p) = .ok file)
    (hfile : PlainFile file) (henv : PlainEnvironment i.environment) :
    let l : Layers := ⟨p.values, i.environment, file⟩
    (∀ e, l.rule = .error e → lintWith i p patterns = .failed (.settings (.rule e))) ∧
      (∀ rule, l.rule = .ok rule → Severity.isValid l.severity = false →
        lintWith i p patterns = .failed (.settings (.severity l.severity))) ∧
      ∀ rule, l.rule = .ok rule → Severity.isValid l.severity = true →
        ∃ task log, Effective l task.settings ∧ task.options = reportOptions i task.settings ∧
          task.quiet = l.bool "quiet" "quiet" false ∧
          task.format =
            Report.Format.choose (l.text "output-format" "lint.output-format" []) task.quiet ∧
          lintWith i p patterns =
            if l.bool "watch" "lint.watch" false then
              startWatch i task (.empty (l.int "cache-size" "lint.cache-size" 0)) log
            else lintOnce i task log := by
  intro l
  obtain ⟨t, ht, hreads⟩ := exists_reads hload hfile henv (isFlagTable_of_parse hparse) patterns
  obtain ⟨hrule, hseverity, hgood⟩ := hreads.ofTable
  have hlint : lintWith i p patterns = lint i t := by rw [lintWith, ht]
  refine ⟨fun e he => ?_, fun rule hok hbad => ?_, fun rule hok hvalid => ?_⟩
  · rw [hlint, lint, hrule e he]
  · rw [hlint, lint, hseverity rule hok hbad]
  · obtain ⟨s, hs, heffective⟩ := hgood rule hok hvalid
    have hwatch : Setting.watch.bool false t = l.bool "watch" "lint.watch" false :=
      hreads.bool (by decide) false
    have hcache : Setting.cacheSize.int 0 t = l.int "cache-size" "lint.cache-size" 0 :=
      hreads.int (by decide) 0
    have hformat : Setting.outputFormat.text [] t =
        l.text "output-format" "lint.output-format" [] :=
      hreads.text _ (by decide) []
    rw [hlint, lint, hs]
    simp only [hwatch, hcache]
    exact ⟨_, _, heffective, rfl, hreads.bool (by decide) false,
      congrArg (fun name => Report.Format.choose name _) hformat, rfl⟩

/-- A configuration file that asks for strictness, and its table. -/
def strictText : Bytes := "lint:\n  strict: true\n"

@[inherit_doc strictText]
def strictFile : Table := [("lint", .table [("strict", .bool true)])]

/-- A command where that file is, in an environment. -/
def strictRun (environment : List (Bytes × Bytes)) : Invocation where
  disk := ⟨.directory [(defaultFile, .file strictText 0)], "/"⟩
  arguments := ["--properties=/color/", "--max-issues-per-linter=9", "--severity="]
  environment
  profile := .ascii
  time := []
  cancelled := false

/-- Whether a document is the one of that file. -/
def isStrictDocument : Option (Option Yaml.Tree) → Bool
  | some (some (.mapping
      [(.scalar [] a true, .mapping [(.scalar [] b true, .scalar [] c true)])])) =>
    [a, b, c] == [Bytes.ofString "lint", Bytes.ofString "strict", Bytes.ofString "true"]
  | _ => false

theorem settings?_strictText : settings? strictText = some strictFile := by
  have htree : isStrictDocument (Yaml.document? strictText) = true := by decide +kernel
  unfold isStrictDocument at htree
  split at htree
  case h_2 => cases htree
  case h_1 a b c hdoc =>
    rw [beq_iff_eq, List.cons.injEq, List.cons.injEq, List.cons.injEq] at htree
    obtain ⟨rfl, rfl, rfl, -⟩ := htree
    have hlint : keyName? true (.scalar [] (Bytes.ofString "lint") true) =
        some (some (Bytes.ofString "lint")) := rfl
    have hstrict : keyName? false (.scalar [] (Bytes.ofString "strict") true) =
        some (some (Bytes.ofString "strict")) := rfl
    have htrue : scalar? [] (Bytes.ofString "true") true = some (.bool, .bool true) := rfl
    have hmerge : isMerge (.scalar [] (Bytes.ofString "lint") true) = false ∧
        isMerge (.scalar [] (Bytes.ofString "strict") true) = false := ⟨rfl, rfl⟩
    rw [settings?, hdoc]
    simp [table?, ownEntries?, mergedEntries?, value?, hlint, hstrict, htrue, hmerge,
      hasUniqueKeys, addMissing, strictFile]

theorem loadFile_strictRun (environment : List (Bytes × Bytes)) :
    loadFile (strictRun environment).disk defaultFile = .ok strictFile := by
  have hstat : (strictRun environment).disk.stat defaultFile =
      .ok ⟨strictText.length, 0, false⟩ := rfl
  have hread : (strictRun environment).disk.read defaultFile = .ok strictText := rfl
  rw [loadFile, hstat, hread]
  simp only [settings?_strictText]

theorem plainFile_strictFile : PlainFile strictFile := ⟨by decide, by decide⟩

/-- What is read from the arguments of the command. -/
def strictParsed : Parsed :=
  { values :=
      [("severity", .text []), ("max-issues-per-linter", .integer 9),
        ("properties", .text "/color/")]
    arguments := [] }

theorem parse_strictRun (environment : List (Bytes × Bytes)) :
    parse (Command.helpFlag :: Command.root.flags) {} (strictRun environment).arguments =
      .ok strictParsed := rfl

/-- Variables for a few options. -/
def someVariables : List (Bytes × Bytes) :=
  [("CSSVARS_LINT_CONCURRENCY", "5"), ("CSSVARS_LINT_MAX_ISSUES_PER_LINTER", "6"),
    ("CSSVARS_RULE_SEVERITY", "warning")]

/-- What the flags, the variables and the file say in that command. -/
theorem lintWith_precedence_strictRun :
    parse (Command.helpFlag :: Command.root.flags) {} (strictRun someVariables).arguments =
        .ok strictParsed ∧
      loadFile (strictRun someVariables).disk (configPath strictParsed) = .ok strictFile ∧
      PlainFile strictFile ∧ PlainEnvironment someVariables ∧
      ∃ task log, task.settings.maxIssues = 9 ∧ task.settings.concurrency = 5 ∧
        task.settings.strict = true ∧ task.settings.printLines = true ∧
        task.settings.severity = Bytes.ofString "warning" ∧ task.quiet = false ∧
        lintWith (strictRun someVariables) strictParsed [] =
          lintOnce (strictRun someVariables) task log := by
  have hparse := parse_strictRun someVariables
  have hload : loadFile (strictRun someVariables).disk
      (configPath strictParsed) = .ok strictFile := by
    rw [show configPath strictParsed = defaultFile by decide, loadFile_strictRun]
  have henv : PlainEnvironment someVariables := ⟨by decide, by decide, by decide⟩
  obtain ⟨-, -, hgood⟩ := lintWith_precedence (strictRun someVariables) .root
    (strictRun someVariables).arguments [] strictParsed strictFile hparse hload
    plainFile_strictFile henv
  obtain ⟨rule, hrule⟩ : ∃ rule, Layers.rule ⟨strictParsed.values, someVariables, strictFile⟩ =
    .ok rule := ⟨_, rfl⟩
  obtain ⟨task, log, heffective, -, hquiet, -, hlint⟩ := hgood rule hrule (by decide)
  refine ⟨hparse, hload, plainFile_strictFile, henv, task, log, ?_, ?_, ?_, ?_, ?_, ?_, ?_⟩
  · rw [heffective.maxIssues]
    decide
  · rw [heffective.concurrency]
    decide
  · rw [heffective.strict]
    decide
  · rw [heffective.printLines]
    decide
  · rw [heffective.severity]
    decide
  · rw [hquiet]
    decide
  · rw [hlint, if_neg (by decide)]

/-- A variable that stands for a whole section hides the section of the file. -/
theorem loadSettings_section_variable :
    let i := strictRun [("CSSVARS_LINT", "x")]
    loadFile i.disk (configPath {}) = .ok strictFile ∧ PlainFile strictFile ∧
      find? Setting.strict.path strictFile = some (.bool true) ∧
      fromVariables? i.environment Setting.strict.path = none ∧
      ∃ t, loadSettings i {} [] = .ok t ∧ Setting.strict.bool false t = false := by
  have hload : loadFile (strictRun [("CSSVARS_LINT", "x")]).disk
      (configPath {}) = .ok strictFile := by
    rw [show configPath {} = defaultFile by decide, loadFile_strictRun]
  have hstrict : Setting.strict.bool false
      (ofLayers strictFile (ofEnvironment [("CSSVARS_LINT", "x")]) []) = false := by decide +kernel
  refine ⟨hload, plainFile_strictFile, rfl, by decide, _, ?_, hstrict⟩
  rw [loadSettings, load, hload]
  rfl

end VarLint.CommandLine
