import VarLint.CommandLine.Run
import VarLint.Proofs.Accounting
import VarLint.Proofs.Gathering

/-!
# The exit decision

A run of the linter fails or not because of what it has found in all, never because of what it lists
or how it shows it:

* `isFailure_iff`: the decision, in terms of the violations, the compliance and the settings that
  have a say. It is taken from the listed issues, so this rests on what limits cannot do
  (`Accounting`).
* `lint_fails_iff`: the same for the command, with everything that has no say.
-/

namespace VarLint

/-! ## Settings -/

namespace Config.LintSettings

/-- Settings that are accepted name one of the two severities. -/
theorem ofTable_severity {t : Table} {s : LintSettings} (h : ofTable t = .ok s) :
    Severity.isValid s.severity = true := by
  unfold ofTable at h
  split at h
  · cases h
  · simp only at h
    split at h
    · cases h
    · rename_i hv
      cases h
      simpa using hv

/-- Issues get the severity that is set. -/
theorem effectiveSeverity_job {s : LintSettings} (h : Severity.isValid s.severity = true) :
    s.job.options.effectiveSeverity = s.severity := by
  have hne : s.severity ≠ [] := by
    intro he
    rw [he] at h
    revert h
    decide
  simp [job, CheckOptions.effectiveSeverity, hne]

/-- Two settings have the same files checked in the same way, and are as strict about it. They may
differ in limits, in what is shown and in how many files are loaded at the same time. -/
structure SameChecks (s s' : LintSettings) : Prop where
  rule : s.rule = s'.rule
  paths : s.paths = s'.paths
  severity : s.severity = s'.severity
  strict : s.strict = s'.strict
  threshold : s.threshold = s'.threshold

end Config.LintSettings

/-! ## The decision -/

namespace CommandLine

open Config (Setting Table LintSettings)

/-- **The decision in terms of violations and compliance**, whatever the limits leave of the
issues. -/
theorem isFailure_iff {s : LintSettings} (hv : Severity.isValid s.severity = true) {skipped : Nat}
    {slots : List Lint.Slot} {f : Findings}
    (hf : f = Lint.findingsOf s.rule s.job.options skipped slots) :
    isFailure s f = true ↔
      (s.strict = false ∧ s.severity = Severity.error ∧ 0 < f.violations) ∨
        (s.strict = true ∧
          (0 < f.violations ∨ (0 < s.threshold ∧ f.compliance < s.threshold))) := by
  have herr : 0 < f.errorCount ↔ s.severity = Severity.error ∧ 0 < f.violations := by
    rw [hf, ← LintSettings.effectiveSeverity_job hv]
    exact Findings.errorCount_pos_iff s.rule s.job.options _
  have hpos : ¬f.issues = [] ↔ 0 < f.violations := by
    rw [hf]
    exact (Findings.violations_pos_iff s.rule s.job.options _).symm
  unfold isFailure
  cases s.strict with
  | false => simp [herr]
  | true => simp [hpos]

/-- How a run that succeeds ends, outside of a watch. -/
theorem lint_error_eq {i : Invocation} {t : Table} {s : LintSettings} {f : Findings}
    (hs : LintSettings.ofTable t = .ok s) (hw : Setting.watch.bool false t = false)
    (hf : (Lint.run i.disk s.job i.cancelled {}).answer = .ok f) :
    (lint i t).error = if isFailure s f then some .issues else none := by
  unfold lint
  simp only [hs, hw, Bool.false_eq_true, if_false]
  unfold lintOnce
  simp only [hf]

/-- Settings that check the same decide alike about what has been gathered. -/
theorem isFailure_eq_of_sameChecks {s s' : LintSettings} (h : s.SameChecks s')
    (hv : Severity.isValid s.severity = true) {skipped : Nat} {slots : List Lint.Slot}
    {f f' : Findings} (hf : f = Lint.findingsOf s.rule s.job.options skipped slots)
    (hf' : f' = Lint.findingsOf s'.rule s'.job.options skipped slots) :
    isFailure s f = isFailure s' f' := by
  -- the options have no part in either number
  have hviol : f.violations = f'.violations := by
    rw [hf, hf', h.rule]
    rfl
  have hcomp : f.compliance = f'.compliance := by
    rw [hf, hf', h.rule]
    rfl
  have hv' : Severity.isValid s'.severity = true := h.severity ▸ hv
  rw [Bool.eq_iff_iff, isFailure_iff hv hf, isFailure_iff hv' hf', hviol, hcomp, h.severity,
    h.strict, h.threshold]

/-- The threshold decides only over a strict run that lists no issue. -/
theorem of_isFailure_threshold_ne {s : LintSettings} {f : Findings} {threshold : Float}
    (h : isFailure { s with threshold } f ≠ isFailure s f) : s.strict = true ∧ f.issues = [] := by
  unfold isFailure at h
  cases hstrict : s.strict with
  | false => simp [hstrict] at h
  | true =>
    refine ⟨rfl, ?_⟩
    cases hissues : f.issues with
    | nil => rfl
    | cons issue rest => simp [hstrict, hissues] at h

/-- The remark about the threshold is made only about a strict run that lists no issue. -/
theorem of_thresholdRemark_ne_nil {s : LintSettings} {f : Findings} (h : thresholdRemark s f ≠ []) :
    s.strict = true ∧ f.issues = [] := by
  unfold thresholdRemark at h
  split at h
  · rename_i hcond
    simp only [Bool.and_eq_true, List.isEmpty_iff] at hcond
    exact hcond.1
  · exact absurd rfl h

/-- **A run fails exactly for its violations, or for a compliance that is too low.** Outside of a
watch, a run that succeeds in linting ends with the error about issues if it is not strict and its
violations are errors, or if it is strict and there is any violation or a compliance below the
threshold; otherwise it ends without error. Limits, formats, colours and the like have no say in
this, and the threshold has one only in a strict run in which everything that is checked is
accepted. -/
theorem lint_fails_iff (i : Invocation) (t : Table) (s : LintSettings) (f : Findings)
    (hs : LintSettings.ofTable t = .ok s) (hw : Setting.watch.bool false t = false)
    (hf : (Lint.run i.disk s.job i.cancelled {}).answer = .ok f) :
    ((lint i t).error = some .issues ↔
      (s.strict = false ∧ s.severity = Severity.error ∧ 0 < f.violations) ∨
        (s.strict = true ∧ (0 < f.violations ∨ (0 < s.threshold ∧ f.compliance < s.threshold)))) ∧
    ((lint i t).error = some .issues ∨ (lint i t).error = none) ∧
    (∀ (i' : Invocation) (t' : Table) (s' : LintSettings),
      LintSettings.ofTable t' = .ok s' → Setting.watch.bool false t' = false →
      i'.disk = i.disk → i'.cancelled = i.cancelled → s.SameChecks s' →
      (lint i' t').error = (lint i t).error) ∧
    (∀ threshold, isFailure { s with threshold } f ≠ isFailure s f →
      s.strict = true ∧ f.violations = 0) ∧
    (thresholdRemark s f ≠ [] → s.strict = true ∧ f.violations = 0) ∧
    (f.violations = 0 ↔ f.acceptedByVariable + f.acceptedByException = f.checked) := by
  have hv := LintSettings.ofTable_severity hs
  obtain ⟨skipped, slots, hg, hfind⟩ := Lint.gather_of_run_ok hf
  have hend := lint_error_eq hs hw hf
  have hiss : f.issues = [] ↔ f.violations = 0 := by
    rw [hfind]
    exact Findings.issues_eq_nil_iff s.rule s.job.options _
  refine ⟨?_, ?_, ?_, ?_, ?_, ?_⟩
  · rw [hend, ← isFailure_iff hv hfind]
    cases isFailure s f <;> simp
  · rw [hend]
    cases isFailure s f <;> simp
  · intro i' t' s' hs' hw' hdisk hcancel hsame
    -- the other run gathers the same files
    have hf' : (Lint.run i'.disk s'.job i'.cancelled {}).answer =
        .ok (Lint.findingsOf s'.rule s'.job.options skipped slots) := by
      unfold LintSettings.job
      rw [Lint.run_answer_eq_map, hdisk, hcancel, ← hsame.paths, hg]
      rfl
    rw [hend, lint_error_eq hs' hw' hf', isFailure_eq_of_sameChecks hsame hv hfind rfl]
  · intro threshold hne
    obtain ⟨hstrict, hnil⟩ := of_isFailure_threshold_ne hne
    exact ⟨hstrict, hiss.1 hnil⟩
  · intro hne
    obtain ⟨hstrict, hnil⟩ := of_thresholdRemark_ne_nil hne
    exact ⟨hstrict, hiss.1 hnil⟩
  · rw [hfind]
    exact Findings.violations_eq_zero_iff s.rule s.job.options _

/-- A style sheet with the same property set to two literals. -/
def twoColors : Invocation where
  disk := ⟨.directory [("a.css", .file "a \x7b color: red; color: tan \x7d" 1)], "/"⟩
  arguments := []
  environment := []
  profile := .ascii
  time := []
  cancelled := false

/-- One issue of each text is listed, and nothing is shown. -/
def listOne : Table :=
  [("properties", .text "/color/"), ("paths", .list [.text "a.css"]),
    ("max-same-issues", .integer 1), ("max-issues-per-linter", .integer (-1)),
    ("quiet", .bool true)]

/-- All issues are listed and shown in another format. -/
def showAll : Table :=
  [("properties", .text "/color/"), ("paths", .list [.text "a.css"]),
    ("output-format", .text "json"), ("verbose", .bool true), ("print-lines", .bool false),
    ("concurrency", .integer 8)]

/-- Two violations of which one is listed fail the run, whether they are shown or not. -/
theorem lint_fails_iff_twoColors :
    ∃ s s' f, LintSettings.ofTable listOne = .ok s ∧ LintSettings.ofTable showAll = .ok s' ∧
      s.SameChecks s' ∧ (Lint.run twoColors.disk s.job twoColors.cancelled {}).answer = .ok f ∧
      s.strict = false ∧ s.severity = Severity.error ∧ f.issues.length = 1 ∧ f.violations = 2 ∧
      (lint twoColors listOne).error = some .issues ∧
      (lint twoColors showAll).error = some .issues := by
  obtain ⟨s, s', f, hs, hs', hsame, hf, hstrict, hsev, hlisted, hviol⟩ :
      ∃ s s' f, LintSettings.ofTable listOne = .ok s ∧ LintSettings.ofTable showAll = .ok s' ∧
        s.SameChecks s' ∧ (Lint.run twoColors.disk s.job twoColors.cancelled {}).answer = .ok f ∧
        s.strict = false ∧ s.severity = Severity.error ∧ f.issues.length = 1 ∧ f.violations = 2 :=
    ⟨_, _, _, rfl, rfl,
      ⟨rfl, by decide +kernel, by decide +kernel, by decide +kernel, Eq.trans (b := 0) rfl rfl⟩,
      rfl, by decide +kernel, by decide +kernel, by decide +kernel, by decide +kernel⟩
  obtain ⟨hfails, -, hblind, -⟩ := lint_fails_iff twoColors listOne s f hs (by decide +kernel) hf
  have herror : (lint twoColors listOne).error = some .issues :=
    hfails.2 (.inl ⟨hstrict, hsev, by omega⟩)
  exact ⟨s, s', f, hs, hs', hsame, hf, hstrict, hsev, hlisted, hviol, herror,
    (hblind twoColors showAll s' hs' (by decide +kernel) rfl rfl hsame).trans herror⟩

end CommandLine

end VarLint
