import VarLint.Proofs.Accounting
import VarLint.Proofs.DeclarationPositions
import VarLint.Proofs.Gathering
import VarLint.Report.IssueList
import VarLint.Report.Json
import VarLint.Report.Markdown

/-!
# What the reports agree on

Three reports count and group the issues each in its own way: the structured one counts them again
and turns the list of categories into a table, the Markdown report takes the stored counts and the
groups by severity, and the list sorts the issues by place and counts them again.

* `countSeverity_add`: where every issue is an error or a warning, the two counts cover the issues.
* `issueBlock_shows`, `issueList_shows`: the list shows every issue in lines of its own: its place
  and text, its source, its literals.
* `sortedIssues_ordered`, `sortedIssues_stable`: the list is in the order of places, and issues of
  one place keep their order. Those of one style sheet are in that order already
  (`sortedIssues_ofSource`).
* `heads_summaryHeader`, `summary_eq`: what the summary below the list counts.
* `markdown_eq`, `sections_perm`: the Markdown report shows the counts, and its sections are fed
  every listed issue, and once.
* `categoryTable_perm`: the table of categories is the list, in another order.
* `reports_agree`: **all reports on the findings of a run agree.**
-/

namespace VarLint

namespace Findings

/-- The findings that checking under a rule and options returns: those of one style sheet, and those
of a run that succeeds. -/
inductive Returned (rule : Rule) (o : CheckOptions) : Findings → Prop
  | source (filename content : Bytes) : Returned rule o (ofSource rule o filename content)
  | run {disk : Disk} {patterns : List Bytes} {cancelled : Bool} {memory : LintMemory}
      {f : Findings}
      (h : (Lint.run disk ⟨some rule, patterns, o⟩ cancelled memory).answer = .ok f) :
      Returned rule o f

/-- They are the findings of some declarations, but for the numbers of files. -/
theorem Returned.exists_declarations {rule : Rule} {o : CheckOptions} {f : Findings}
    (h : Returned rule o f) : ∃ ds, ∃ scanned skipped : Int,
      f = { ofDeclarations rule o ds with filesScanned := scanned, filesSkipped := skipped } := by
  cases h with
  | source filename content => exact ⟨Stylesheet.declarations filename content, 1, _, rfl⟩
  | run h =>
    obtain ⟨skipped, slots, -, rfl⟩ := Lint.gather_of_run_ok h
    exact ⟨_, _, _, rfl⟩

/-! ## Severities -/

theorem severity_ne : Severity.error ≠ Severity.warning := by decide

/-- **Errors and warnings** are all issues, where there is no other severity. -/
theorem countSeverity_add {issues : List Issue}
    (h : ∀ i ∈ issues, i.severity = Severity.error ∨ i.severity = Severity.warning) :
    countSeverity Severity.error issues + countSeverity Severity.warning issues =
      issues.length := by
  rw [List.length_eq_countP_add_countP fun i : Issue => i.severity == Severity.error]
  refine congrArg (_ + ·) (List.countP_congr fun i hi => ?_)
  rcases h i hi with he | hw
  · simp [he, severity_ne]
  · simp [hw, severity_ne.symm]

theorem effectiveSeverity_cases {o : CheckOptions}
    (h : o.severity = [] ∨ Severity.isValid o.severity = true) :
    o.effectiveSeverity = Severity.error ∨ o.effectiveSeverity = Severity.warning := by
  unfold CheckOptions.effectiveSeverity
  rcases h with h | h
  · exact .inl (by simp [h])
  · simp only [Severity.isValid, Bool.or_eq_true, beq_iff_eq] at h
    split
    · exact .inl rfl
    · exact h

/-- The group of a severity holds its issues in their order. -/
theorem lookup_bySeverity (issues : List Issue) (s : Bytes) :
    ((bySeverity issues).lookup s).getD [] = issues.filter fun i => i.severity == s := by
  cases h : (bySeverity issues).lookup s with
  | none =>
    rw [List.lookup_eq_none_iff] at h
    refine (List.filter_eq_nil_iff.2 fun i hi hs => ?_).symm
    -- an issue of that severity would have a group
    have hgroup : (s, issues.filter fun j => j.severity == s) ∈ bySeverity issues :=
      List.mem_map.2 ⟨s, Tally.mem_distinct.2 (List.mem_map.2 ⟨i, hi, eq_of_beq hs⟩), rfl⟩
    simpa using h _ hgroup
  | some g =>
    obtain ⟨before, after, hsplit, -⟩ := List.lookup_eq_some_iff.1 h
    have hgroup : (s, g) ∈ bySeverity issues := by simp [hsplit]
    exact (mem_bySeverity hgroup).1

/-! ## Listed issues -/

section
variable (rule : Rule) (o : CheckOptions) (ds : List Declaration)

/-- A listed issue has literals. -/
theorem literals_of_mem_issues {i : Issue} (h : i ∈ (ofDeclarations rule o ds).issues) :
    i.literals ≠ [] := by
  rw [issues_eq] at h
  obtain ⟨d, hd, rfl⟩ := List.mem_map.1 ((limit_sublist o _).subset h)
  exact literals_ne_nil_of_violates (List.mem_filter.1 hd).2

/-- A listed issue comes from the one rule there is. -/
theorem linter_of_mem_issues {i : Issue} (h : i ∈ (ofDeclarations rule o ds).issues) :
    i.linter = Rule.name := by
  rw [issues_eq] at h
  obtain ⟨d, -, rfl⟩ := List.mem_map.1 ((limit_sublist o _).subset h)
  rfl

theorem nodup_categories :
    ((ofDeclarations rule o ds).violationsByCategory.map Prod.fst).Nodup := by
  rw [violationsByCategory_eq, List.map_map]
  exact Tally.nodup_ranked_keys _

/-- Every violation is in one category. -/
theorem sum_categories : ((ofDeclarations rule o ds).violationsByCategory.map Prod.snd).sum =
    (ofDeclarations rule o ds).violations := by
  have hsum := Tally.sum_ranked (((ds.filter (violates rule)).map Declaration.property).map fun p =>
    (PropertyCategory.ofProperty p).name)
  rw [List.length_map, List.length_map] at hsum
  rw [violationsByCategory_eq, violations_eq, ← hsum, Nat.cast_list_sum, List.map_map, List.map_map]
  rfl

end

/-- What the reports rely on in some findings. -/
structure Booked (f : Findings) : Prop where
  errors : f.errorCount = countSeverity Severity.error f.issues
  warnings : f.warningCount = countSeverity Severity.warning f.issues
  groups : f.issuesBySeverity = bySeverity f.issues
  severity : ∀ i ∈ f.issues, i.severity = Severity.error ∨ i.severity = Severity.warning
  literals : ∀ i ∈ f.issues, i.literals ≠ []
  linter : ∀ i ∈ f.issues, i.linter = Rule.name
  listed : f.issues.length + f.truncated = f.violations
  categories_nodup : (f.violationsByCategory.map Prod.fst).Nodup
  categories_sum : (f.violationsByCategory.map Prod.snd).sum = f.violations

/-- **What is returned is booked**, if the severity that was asked for is one of the two. -/
theorem Returned.booked {rule : Rule} {o : CheckOptions} {f : Findings} (hf : Returned rule o f)
    (hs : o.severity = [] ∨ Severity.isValid o.severity = true) : Booked f := by
  obtain ⟨ds, scanned, skipped, rfl⟩ := hf.exists_declarations
  exact
    { errors := rfl
      warnings := rfl
      groups := rfl
      severity := fun i hi => by
        rw [severity_of_mem_issues rule o ds hi]
        exact effectiveSeverity_cases hs
      literals := fun i hi => literals_of_mem_issues rule o ds hi
      linter := fun i hi => linter_of_mem_issues rule o ds hi
      listed := by
        simp only [truncated_eq, violations_eq]
        omega
      categories_nodup := nodup_categories rule o ds
      categories_sum := sum_categories rule o ds }

end Findings

namespace Report

open Findings

/-! ## The structured report -/

/-- The value of a field of an object. -/
def JsonValue.field? (v : JsonValue) (key : Bytes) : Option JsonValue :=
  match v with
  | .object fields => fields.lookup key
  | _ => none

/-- The document `v` describes the issue: its place, its property and value, and its literals. -/
structure Describes (v : JsonValue) (i : Issue) : Prop where
  file : v.field? "file" = some (.string i.file)
  line : v.field? "line" = some (.ofInt i.line)
  column : v.field? "column" = some (.ofInt i.column)
  severity : v.field? "severity" = some (.string i.severity)
  property : v.field? "property" = some (.string i.property)
  value : v.field? "value" = some (.string i.value)
  literals : v.field? "literals" = some (.ofTexts i.literals)

theorem issueJson_describes {i : Issue} (h : i.literals ≠ []) : Describes (issueJson i) i where
  file := rfl
  line := rfl
  column := rfl
  severity := rfl
  property := rfl
  value := rfl
  literals := by
    simp only [issueJson, List.isEmpty_iff, h, if_false, JsonValue.field?]
    rfl

/-- **The table of categories** is the list of their counts in another order: no name is there
twice, so no count is lost. -/
theorem categoryTable_perm {entries : List (Bytes × Int)} (h : (entries.map Prod.fst).Nodup) :
    (categoryTable entries).Perm entries := by
  have hkeys : ((Tally.distinct (entries.map Prod.fst)).mergeSort Tally.bytesLe).Perm
      (entries.map Prod.fst) :=
    (List.mergeSort_perm _ _).trans ((List.perm_ext_iff_of_nodup (Tally.nodup_distinct _) h).2
      fun _ => Tally.mem_distinct)
  -- the entry that is found under the name of an entry is that entry
  have hfound : ∀ e ∈ entries, (entries.reverse.find? fun x => x.1 == e.1) = some e := by
    intro e he
    have hsome : (entries.reverse.find? fun x => x.1 == e.1).isSome :=
      List.find?_isSome.2 ⟨e, List.mem_reverse.2 he, beq_self_eq_true e.1⟩
    obtain ⟨x, hx⟩ := Option.isSome_iff_exists.1 hsome
    have hkey : x.1 = e.1 := by simpa using List.find?_some hx
    have hmem : x ∈ entries := List.mem_reverse.1 (List.mem_of_find?_eq_some hx)
    rw [hx, List.inj_on_of_nodup_map h hmem he hkey]
  refine (hkeys.filterMap _).trans (.of_eq ?_)
  rw [List.filterMap_map]
  exact (List.filterMap_congr fun e he => hfound e he).trans (List.filterMap_some)

/-! ## The Markdown report -/

/-- The sections of issues, each with its title and its issues: those of the two severities, but for
empty ones. -/
def issueSections (f : Findings) : List (Bytes × List Issue) :=
  [(.ofString "## ❌ Errors", f.issues.filter fun i => i.severity == Severity.error),
    (.ofString "## ⚠️ Warnings", f.issues.filter fun i => i.severity == Severity.warning)].filter
      fun s => !s.2.isEmpty

/-- The text of the sections of issues. -/
def sectionText (setting : Setting) (f : Findings) : Bytes :=
  (issueSections f).flatMap fun s => issueSection setting s.1 s.2

/-- The row that counts the issues. -/
def totalRow (total : Nat) (errors warnings : Int) : Bytes :=
  "| **Total Issues** | " ++ Bytes.ofNat total ++ " (" ++ counted errors "error" "errors" ++ ", "
    ++ counted warnings "warning" "warnings" ++ ") |\n"

theorem issuesOf_eq {f : Findings} (h : Booked f) (s : Bytes) :
    issuesOf f s = f.issues.filter fun i => i.severity == s := by
  rw [issuesOf, h.groups, lookup_bySeverity]

/-- A section is written if there are issues for it. -/
theorem section_eq {f : Findings} (h : Booked f) {s : Bytes} {n : Int}
    (hn : n = countSeverity s f.issues) (setting : Setting) (name : Bytes) :
    (if 0 < n then issueSection setting name (issuesOf f s) else []) =
      ([(name, f.issues.filter fun i => i.severity == s)].filter fun x => !x.2.isEmpty).flatMap
        fun x => issueSection setting x.1 x.2 := by
  have hlength : n = (f.issues.filter fun i => i.severity == s).length := by
    rw [hn, countSeverity, List.countP_eq_length_filter]
  rw [issuesOf_eq h]
  cases hgroup : f.issues.filter fun i => i.severity == s with
  | nil => simp [hlength, hgroup]
  | cons i is =>
    have hpos : 0 < n := by
      rw [hlength, hgroup]
      simp
    simp [hpos]

theorem headline_eq (f : Findings) : ∃ before after, headline f =
    before ++ totalRow f.issues.length f.errorCount f.warningCount ++ after := by
  have htotal : totalRow f.issues.length f.errorCount f.warningCount =
      row ["**Total Issues**", Bytes.ofNat f.issues.length ++ " ("
        ++ counted f.errorCount "error" "errors" ++ ", "
        ++ counted f.warningCount "warning" "warnings" ++ ")"] := by
    simp only [totalRow, row, line, Bytes.join, List.append_assoc]
    rfl
  refine ⟨title "## Executive Summary" ++ line "| Metric | Value |" ++ line "|--------|-------|"
    ++ row ["**Status**", status f], row ["**Files Scanned**", Bytes.ofInt f.filesScanned]
    ++ row ["**Compliance**", Decimal.fixed 1 f.compliance ++ "%"]
    ++ row ["**Declarations Checked**", Bytes.ofInt f.checked ++ " / " ++ Bytes.ofInt f.found]
    ++ line [], ?_⟩
  simp only [headline, htotal, List.append_assoc]

/-- **The Markdown report** shows the counts in one row, and then the sections of issues. -/
theorem markdown_eq {f : Findings} (h : Booked f) (setting : Setting) : ∃ before between,
    markdown setting f = before ++ totalRow f.issues.length f.errorCount f.warningCount ++ between
      ++ sectionText setting f ++ literalSection f ++ categorySection f ++ countSection f
      ++ noteSection f ++ line "---" ++ line "*Generated by cssvars enforce-variable v1.0*" := by
  have hsections : sectionText setting f =
      (if 0 < f.errorCount then
        issueSection setting "## ❌ Errors" (issuesOf f Severity.error) else []) ++
      (if 0 < f.warningCount then
        issueSection setting "## ⚠️ Warnings" (issuesOf f Severity.warning) else []) := by
    rw [section_eq h h.errors, section_eq h h.warnings, ← List.flatMap_append, ← List.filter_append]
    rfl
  obtain ⟨before, after, hheadline⟩ := headline_eq f
  refine ⟨title "# CSS Variable Report" ++ line ("_Generated " ++ setting.time ++ "_") ++ line []
    ++ before, after, ?_⟩
  simp only [markdown, hheadline, hsections, List.append_assoc]

/-- A section has the rows of its first fifty issues, and says how many more there are. -/
theorem issueSection_rows (setting : Setting) (name : Bytes) (issues : List Issue) :
    ∃ before after, issueSection setting name issues =
        before ++ (issues.take 50).flatMap (issueRow setting) ++ after ∧
      (50 < issues.length →
        line ("... and " ++ Bytes.ofNat (issues.length - 50) ++ " more") <:+: after) := by
  refine ⟨title name ++ line "| Location | Property | Value |" ++
    line "|----------|----------|-------|", _, by rw [issueSection, List.append_assoc]; rfl, ?_⟩
  intro hmore
  have hlimit : markdownLimit < issues.length := hmore
  rw [if_pos hlimit]
  exact ⟨line [], line [], rfl⟩

/-- **The sections are fed every issue once.** -/
theorem sections_perm {f : Findings} (h : Booked f) :
    ((issueSections f).flatMap Prod.snd).Perm f.issues := by
  have hother : (f.issues.filter fun i => i.severity == Severity.warning) =
      f.issues.filter fun i => !(i.severity == Severity.error) := by
    refine List.filter_congr fun i hi => ?_
    rcases h.severity i hi with he | hw
    · simp [he, severity_ne]
    · simp [hw, severity_ne.symm]
  have hall : (issueSections f).flatMap Prod.snd =
      (f.issues.filter fun i => i.severity == Severity.error) ++
        f.issues.filter fun i => i.severity == Severity.warning := by
    unfold issueSections
    cases f.issues.filter fun i => i.severity == Severity.error <;>
      cases f.issues.filter fun i => i.severity == Severity.warning <;> simp
  rw [hall, hother]
  exact List.filter_append_perm _ f.issues

/-! ## The list of issues -/

/-- The lines that show an issue: its place with the text and the linter, its source with a caret
below, and its literals. -/
structure Shows (o : Options) (i : Issue) (lines : List Bytes) : Prop where
  place : lines.head? = some
    (Style.cyan.render o.paint
        (i.file ++ ":" ++ Bytes.ofInt i.line ++ ":" ++ Bytes.ofInt i.column ++ ":") ++ " "
      ++ (if i.severity = Severity.warning then ("warning: " : Bytes) else []) ++ i.text
      ++ Style.gray.render o.paint (if o.printLinter then " (" ++ i.linter ++ ")" else []))
  below : ∃ source literals, lines.tail = source ++ literals ∧
    (o.printLines = false ∨ i.source = [] → source = []) ∧
    (∀ first rest, o.printLines = true → i.source = first :: rest → source =
      i.source.map (fun l => 0x09 :: l) ++
        ["\t" ++ Style.yellow.render o.paint (caret first i.column)]) ∧
    (o.verbose = false ∨ i.literals = [] → literals = []) ∧
    (o.verbose = true → i.literals ≠ [] → literals =
      ["\t" ++ Style.gray.render o.paint ("literals: " ++ quotedList i.literals)])

/-- **The block of an issue shows it.** -/
theorem issueBlock_shows (o : Options) (i : Issue) :
    Shows o i (placeLine o i :: sourceLines o i ++ shownLiterals o i) where
  place := by
    simp only [placeLine, List.cons_append, List.head?_cons]
    split <;> simp
  below := by
    refine ⟨sourceLines o i, shownLiterals o i, rfl, ?_, ?_, ?_, ?_⟩
    · rintro (h | h)
      · cases hsource : i.source <;> simp [sourceLines, hsource, h]
      · simp [sourceLines, h]
    · intro first rest hlines hsource
      simp [sourceLines, hsource, hlines]
    · rintro (h | h) <;> simp [shownLiterals, h]
    · intro hverbose hliterals
      simp [shownLiterals, hverbose, hliterals]

/-- **The list shows every issue in lines of its own**, and closes with the summary. -/
theorem issueList_shows (o : Options) (f : Findings) : ∃ blocks : List (List Bytes),
    issueList o f = (blocks.flatten.flatMap fun l => l ++ [0x0A]) ++ summary o f ∧
      List.Forall₂ (Shows o) (sortedIssues f.issues) blocks := by
  refine ⟨(sortedIssues f.issues).map fun i =>
    placeLine o i :: sourceLines o i ++ shownLiterals o i,
    ?_, List.forall₂_map_right_iff.2 (List.forall₂_same.2 fun i _ => issueBlock_shows o i)⟩
  rw [issueList, ← List.flatMap_def, List.flatMap_assoc]
  rfl

/-- The order of places: by file, then line, then column. -/
def PlaceOrder (a b : Issue) : Prop :=
  a.file < b.file ∨ a.file = b.file ∧ (a.line < b.line ∨ a.line = b.line ∧ a.column ≤ b.column)

theorem placeLe_iff (a b : Issue) : placeLe a b = true ↔ PlaceOrder a b := by
  unfold placeLe PlaceOrder Tally.bytesLe
  by_cases hf : a.file = b.file
  · have hlt : ¬b.file < b.file := fun h => List.lt_asymm h h
    by_cases hl : a.line = b.line
    · simp [hf, hl, hlt]
    · simp [hf, hl, hlt]
      omega
  · have htotal : ¬b.file < a.file ↔ a.file < b.file := by
      constructor
      · intro hba
        by_contra hab
        exact hf (List.le_antisymm hba hab)
      · exact List.lt_asymm
    simp [hf, htotal]

theorem PlaceOrder.trans {a b c : Issue} (hab : PlaceOrder a b) (hbc : PlaceOrder b c) :
    PlaceOrder a c := by
  unfold PlaceOrder at *
  rcases hab with hab | ⟨hab, h⟩
  · rcases hbc with hbc | ⟨hbc, -⟩
    · exact .inl (List.lt_trans hab hbc)
    · exact .inl (hbc ▸ hab)
  · rcases hbc with hbc | ⟨hbc, h'⟩
    · exact .inl (hab ▸ hbc)
    · exact .inr ⟨hab.trans hbc, by omega⟩

theorem placeLe_trans (a b c : Issue) (hab : placeLe a b = true) (hbc : placeLe b c = true) :
    placeLe a c = true :=
  (placeLe_iff a c).2 (((placeLe_iff a b).1 hab).trans ((placeLe_iff b c).1 hbc))

theorem placeLe_total (a b : Issue) : (placeLe a b || placeLe b a) = true := by
  rw [Bool.or_eq_true, placeLe_iff, placeLe_iff]
  unfold PlaceOrder
  by_cases hf : a.file = b.file
  · have := Int.lt_trichotomy a.line b.line
    have := Int.le_total a.column b.column
    simp only [hf, true_and]
    omega
  · by_cases hab : a.file < b.file
    · exact .inl (.inl hab)
    · by_cases hba : b.file < a.file
      · exact .inr (.inl hba)
      · exact absurd (List.le_antisymm hba hab) hf

/-- **The list is in the order of places.** -/
theorem sortedIssues_ordered (issues : List Issue) : (sortedIssues issues).Pairwise PlaceOrder :=
  (List.pairwise_mergeSort placeLe_trans placeLe_total issues).imp fun {a b} => (placeLe_iff a b).1

theorem sortedIssues_perm (issues : List Issue) : (sortedIssues issues).Perm issues :=
  List.mergeSort_perm issues placeLe

/-- Whether two issues have the same place. -/
def samePlace (a b : Issue) : Bool := a.file == b.file && a.line == b.line && a.column == b.column

/-- **Issues of one place keep their order.** -/
theorem sortedIssues_stable (issues : List Issue) (i : Issue) :
    (sortedIssues issues).filter (samePlace i) = issues.filter (samePlace i) := by
  have hsame : (issues.filter (samePlace i)).Pairwise fun a b => placeLe a b = true := by
    refine List.pairwise_of_forall_mem_list fun a ha b hb => (placeLe_iff a b).2 (.inr ?_)
    have ha := (List.mem_filter.1 ha).2
    have hb := (List.mem_filter.1 hb).2
    simp only [samePlace, Bool.and_eq_true, beq_iff_eq] at ha hb
    rw [← ha.1.1, ← hb.1.1, ← ha.1.2, ← hb.1.2, ← ha.2, ← hb.2]
    exact ⟨rfl, .inr ⟨rfl, Int.le_refl _⟩⟩
  have hsub : (issues.filter (samePlace i)).Sublist (sortedIssues issues) :=
    List.sublist_mergeSort placeLe_trans placeLe_total hsame List.filter_sublist
  -- both filters keep equally many
  have hsub' := hsub.filter (samePlace i)
  rw [List.filter_filter] at hsub'
  simp only [Bool.and_self] at hsub'
  exact (hsub'.eq_of_length ((sortedIssues_perm issues).filter _).length_eq.symm).symm

/-! ## One style sheet -/

section
open Stylesheet

theorem declarations_before (filename content : Bytes) :
    (declarations filename content).Pairwise fun d e => d.position.Before e.position := by
  have hrise := (namesIn_before .start fun t ht hn => ?_).sublist
    (declared_sublist filename content)
  · rw [List.pairwise_map] at hrise
    rw [declarations_eq, List.pairwise_map]
    exact hrise
  · obtain ⟨b, rest, hb, -⟩ := nonspace_of_mem_tokens ht (ne_whitespace_of_isName hn)
    simp [hb]

theorem file_of_mem_declarations {filename content : Bytes} {d : Declaration}
    (h : d ∈ declarations filename content) : d.file = filename := by
  rw [declarations_eq] at h
  obtain ⟨x, -, rfl⟩ := List.mem_map.1 h
  rfl

end

/-- **The issues of one style sheet** are in the order of places already. -/
theorem sortedIssues_ofSource (rule : Rule) (o : CheckOptions) (filename content : Bytes) :
    sortedIssues (ofSource rule o filename content).issues =
      (ofSource rule o filename content).issues := by
  have hissues : (ofSource rule o filename content).issues =
      limit o (Findings.issuesOf rule o.effectiveSeverity
        (Stylesheet.declarations filename content)) := issues_eq rule o _
  rw [hissues]
  refine List.mergeSort_of_pairwise (.sublist (limit_sublist o _) (List.pairwise_map.2 ?_))
  refine (((declarations_before filename content).sublist List.filter_sublist).imp_of_mem ?_)
  intro d e hd he hbefore
  have hfile : d.file = e.file := (file_of_mem_declarations (List.mem_filter.1 hd).1).trans
    (file_of_mem_declarations (List.mem_filter.1 he).1).symm
  rw [placeLe_iff]
  unfold Stylesheet.Position.Before at hbefore
  refine .inr ⟨hfile, ?_⟩
  simp only [Issue.of]
  omega

/-! ## All reports -/

/-- A text counts the issues: all of them, the errors and the warnings if there are both, and those
that were dropped. -/
inductive Heads (total errors warnings truncated : Int) : Bytes → Prop
  | plain : ¬(0 < errors ∧ 0 < warnings) → ¬0 < truncated →
      Heads total errors warnings truncated (counted total "issue" "issues")
  | dropped : ¬(0 < errors ∧ 0 < warnings) → 0 < truncated →
      Heads total errors warnings truncated (counted total "issue" "issues" ++ " ("
        ++ counted truncated "issue" "issues" ++ " truncated" ++ ")")
  | both : 0 < errors ∧ 0 < warnings → ¬0 < truncated →
      Heads total errors warnings truncated (counted total "issue" "issues" ++ " ("
        ++ counted errors "error" "errors" ++ ", " ++ counted warnings "warning" "warnings" ++ ")")
  | bothDropped : 0 < errors ∧ 0 < warnings → 0 < truncated →
      Heads total errors warnings truncated (counted total "issue" "issues" ++ " ("
        ++ counted errors "error" "errors" ++ ", " ++ counted warnings "warning" "warnings" ++ "; "
        ++ counted truncated "issue" "issues" ++ " truncated" ++ ")")

/-- **The summary counts the listed issues again.** -/
theorem heads_summaryHeader (f : Findings) :
    Heads f.issues.length (countSeverity Severity.error f.issues)
      (countSeverity Severity.warning f.issues) f.truncated (summaryHeader f) := by
  unfold summaryHeader
  generalize countSeverity Severity.error f.issues = errors
  generalize countSeverity Severity.warning f.issues = warnings
  have hcast : (0 < (errors : Int) ∧ 0 < (warnings : Int)) ↔ (0 < errors ∧ 0 < warnings) := by omega
  by_cases hboth : 0 < errors ∧ 0 < warnings <;> by_cases hdropped : 0 < f.truncated
  · simpa [hboth, hdropped, Bytes.join] using
      (.bothDropped (hcast.2 hboth) hdropped : Heads f.issues.length errors warnings f.truncated _)
  · simpa [hboth, hdropped, Bytes.join] using
      (.both (hcast.2 hboth) hdropped : Heads f.issues.length errors warnings f.truncated _)
  · simpa [hboth, hdropped, Bytes.join] using
      (.dropped (mt hcast.1 hboth) hdropped : Heads f.issues.length errors warnings f.truncated _)
  · simpa [hboth, hdropped] using
      (.plain (mt hcast.1 hboth) hdropped : Heads f.issues.length errors warnings f.truncated _)

/-- The summary that starts with `head`, below a list of issues that one rule has found. -/
def summaryText (o : Options) (head : Bytes) (total : Nat) : Bytes :=
  let count : Bytes :=
    if total = 0 then []
    else "* enforce-variable: " ++ Bytes.ofNat total ++ "\n\n" ++ Style.gray.render o.paint hint
      ++ "\n"
  "\n" ++ head ++ ":\n" ++ count

theorem head_lines (head : Bytes) : line [] ++ line (head ++ ":") = "\n" ++ head ++ ":\n" := by
  simp only [line, List.append_assoc]
  rfl

/-- The summary where one rule has found all issues. -/
theorem summary_eq {f : Findings} (h : ∀ i ∈ f.issues, i.linter = Rule.name) (o : Options) :
    summary o f = summaryText o (summaryHeader f) f.issues.length := by
  have hlinters : f.issues.map Issue.linter = List.replicate f.issues.length Rule.name :=
    List.eq_replicate_iff.2 ⟨List.length_map _, by simpa using h⟩
  have hcount : ∀ n : Bytes,
      line ("* " ++ Rule.name ++ ": " ++ n) = "* enforce-variable: " ++ n ++ "\n" := by
    intro n
    simp only [line, List.append_assoc]
    rfl
  unfold summary summaryText
  rw [hlinters, head_lines]
  cases hissues : f.issues with
  | nil => simp [Tally.distinct]
  | cons i is =>
    simp only [List.length_cons, Tally.distinct_replicate_succ, List.mergeSort_singleton,
      List.flatMap_cons, List.flatMap_nil, List.count_replicate_self, hcount, List.isEmpty_cons,
      Bool.false_eq_true, if_false, List.append_nil, Nat.succ_ne_zero]
    simp only [line, List.nil_append, List.append_assoc]
    rfl

/-- The reports on some findings agree. -/
structure Agree (setting : Setting) (shown : Options) (f : Findings) : Prop where
  /-- Counted again, the issues of each severity are as many as were counted before. -/
  errors : countSeverity Severity.error f.issues = f.errorCount
  warnings : countSeverity Severity.warning f.issues = f.warningCount
  /-- Every issue is an error or a warning. -/
  severities : f.errorCount + f.warningCount = f.issues.length
  /-- Every violation is listed or dropped. -/
  listed : f.issues.length + f.truncated = f.violations
  /-- The structured report has these counts. -/
  json_summary : ∃ v, (jsonDocument setting f).field? "summary" = some v ∧
    v.field? "total_issues" = some (.ofInt f.issues.length) ∧
    v.field? "errors" = some (.ofInt f.errorCount) ∧
    v.field? "warnings" = some (.ofInt f.warningCount) ∧
    v.field? "truncated" = some (.ofInt f.truncated)
  /-- It has the categories, each once, and all violations in them. -/
  json_categories : ∃ table : List (Bytes × Int),
    (jsonDocument setting f).field? "categories" =
      some (.object (table.map fun (c, n) => (c, .ofInt n))) ∧
    (table.map Prod.fst).Nodup ∧ table.Perm f.violationsByCategory ∧
    (table.map Prod.snd).sum = f.issues.length + f.truncated
  /-- It describes the issues one after the other. -/
  json_issues : ∃ items, (jsonDocument setting f).field? "issues" = some (.array items) ∧
    List.Forall₂ Describes items f.issues
  /-- The Markdown report has the counts in one row, and below it the sections of issues. -/
  markdown : ∃ before between, markdown setting f =
    before ++ totalRow f.issues.length f.errorCount f.warningCount ++ between
      ++ sectionText setting f ++ literalSection f ++ categorySection f ++ countSection f
      ++ noteSection f ++ line "---" ++ line "*Generated by cssvars enforce-variable v1.0*"
  /-- The sections are fed every issue once. -/
  sections : ((issueSections f).flatMap Prod.snd).Perm f.issues
  /-- A section has the rows of its first fifty issues, and says how many more there are. -/
  rows : ∀ s ∈ issueSections f, ∃ before after, issueSection setting s.1 s.2 =
      before ++ (s.2.take 50).flatMap (issueRow setting) ++ after ∧
    (50 < s.2.length →
      line ("... and " ++ Bytes.ofNat (s.2.length - 50) ++ " more") <:+: after)
  /-- The list shows every issue in lines of its own, by place; issues of one place keep their
  order. -/
  list : ∃ blocks : List (List Bytes),
    issueList shown f = (blocks.flatten.flatMap fun l => l ++ [0x0A]) ++ summary shown f ∧
      List.Forall₂ (Shows shown) (sortedIssues f.issues) blocks
  list_perm : (sortedIssues f.issues).Perm f.issues
  list_ordered : (sortedIssues f.issues).Pairwise PlaceOrder
  list_stable : ∀ i, (sortedIssues f.issues).filter (samePlace i) = f.issues.filter (samePlace i)
  /-- The summary below the list counts the issues, in total and for the one rule. -/
  summary : ∃ head, Heads f.issues.length f.errorCount f.warningCount f.truncated head ∧
    summary shown f = summaryText shown head f.issues.length

theorem Agree.of_booked {f : Findings} (h : Booked f) (setting : Setting) (shown : Options) :
    Agree setting shown f where
  errors := h.errors.symm
  warnings := h.warnings.symm
  severities := by
    rw [h.errors, h.warnings, ← countSeverity_add h.severity, Int.natCast_add]
  listed := h.listed
  json_summary := ⟨_, rfl, rfl, by rw [h.errors]; rfl, by rw [h.warnings]; rfl, rfl⟩
  json_categories := by
    have hperm := categoryTable_perm h.categories_nodup
    refine ⟨categoryTable f.violationsByCategory, rfl, ?_, hperm, ?_⟩
    · exact (hperm.map Prod.fst).nodup_iff.2 h.categories_nodup
    · rw [(hperm.map Prod.snd).sum_eq, h.categories_sum, h.listed]
  json_issues :=
    ⟨_, rfl, List.forall₂_map_left_iff.2 (List.forall₂_same.2 fun i hi =>
      issueJson_describes (h.literals i hi))⟩
  markdown := markdown_eq h setting
  sections := sections_perm h
  rows := fun s _ => issueSection_rows setting s.1 s.2
  list := issueList_shows shown f
  list_perm := sortedIssues_perm f.issues
  list_ordered := sortedIssues_ordered f.issues
  list_stable := sortedIssues_stable f.issues
  summary := by
    refine ⟨summaryHeader f, ?_, summary_eq h.linter shown⟩
    rw [h.errors, h.warnings]
    exact heads_summaryHeader f

/-- **All reports agree** on the findings of one style sheet and on those of a run, whatever the
limits: on the numbers of issues, errors and warnings, on what is dropped and in which categories,
and on the issues themselves, which each report is given once. The issues of one style sheet are by
place already. The summary of any findings, with issues of both severities too, shows what it counts
again. -/
theorem reports_agree (rule : Rule) (o : CheckOptions) (f : Findings) (hf : Returned rule o f)
    (hs : o.severity = [] ∨ Severity.isValid o.severity = true) (setting : Setting)
    (shown : Options) :
    Agree setting shown f ∧
      (∀ filename content, f = ofSource rule o filename content →
        sortedIssues f.issues = f.issues) ∧
      ∀ g : Findings, ∃ head, Heads g.issues.length (countSeverity Severity.error g.issues)
        (countSeverity Severity.warning g.issues) g.truncated head ∧
        ("\n" ++ head ++ ":\n" : Bytes) <+: summary shown g := by
  refine ⟨.of_booked (hf.booked hs) setting shown, ?_, fun g => ?_⟩
  · rintro filename content rfl
    exact sortedIssues_ofSource rule o filename content
  · refine ⟨summaryHeader g, heads_summaryHeader g, ?_⟩
    rw [summary, head_lines, List.append_assoc _ (List.flatMap ..)]
    exact List.prefix_append _ _

/-- A style sheet with two colours. -/
def twoShades : Bytes := "p \x7b color: red; border-color: tan \x7d"

/-- One of two warnings is dropped, and all reports say so. -/
theorem reports_agree_dropped :
    ∃ rule f, Rule.ofLiterals "/color/" [] = .ok rule ∧
      f = ofSource rule ⟨"warning", 1, 0⟩ "a.css" twoShades ∧
      f.issues.length = 1 ∧ f.warningCount = 1 ∧ f.truncated = 1 ∧
      Agree ⟨"/", "now"⟩ {} f ∧ sortedIssues f.issues = f.issues := by
  obtain ⟨rule, hrule, hissues, hwarnings, htruncated⟩ :
      ∃ rule, Rule.ofLiterals "/color/" [] = .ok rule ∧
        (ofSource rule ⟨"warning", 1, 0⟩ "a.css" twoShades).issues.length = 1 ∧
        (ofSource rule ⟨"warning", 1, 0⟩ "a.css" twoShades).warningCount = 1 ∧
        (ofSource rule ⟨"warning", 1, 0⟩ "a.css" twoShades).truncated = 1 :=
    ⟨_, rfl, by decide +kernel, by decide +kernel, by decide +kernel⟩
  obtain ⟨hagree, hsorted, -⟩ := reports_agree rule ⟨"warning", 1, 0⟩ _ (.source "a.css" twoShades)
    (.inr (by decide)) ⟨"/", "now"⟩ {}
  exact ⟨rule, _, hrule, rfl, hissues, hwarnings, htruncated, hagree, hsorted _ _ rfl⟩

end Report

end VarLint
