import Mathlib.Algebra.BigOperators.Ring.Finset
import VarLint.Findings
import VarLint.Proofs.Tallies

/-!
# Accounting

How the numbers of one run hang together:

* `length_eq_accepted_add_rejected`: a judged declaration is accepted for its variables, or by the
  exceptions, or it is rejected, and only one of the three is counted.
* `limit_sublist`, `limit_eq_nil_iff`: limits take issues away and change none, and whatever they
  are, they leave an issue where there is one.
* `rejected_judged`: what is rejected is what violates the rule, said of each declaration by itself.
* `issues_eq_nil_iff`, `errorCount_pos_iff`: so the issues that are listed still tell whether there
  are violations, and whether these are errors.
* `ofDeclarations_accounts`: **the books of every run balance** (`Accounts`), before and after
  limits, over categories, severities and literals.
-/

namespace VarLint.Findings

/-! ## Limits -/

theorem atMostSame_sublist (n : Nat) : ∀ (kept : List Bytes) (issues : List Issue),
    (atMostSame n kept issues).Sublist issues
  | _, [] => .slnil
  | kept, i :: rest => by
    unfold atMostSame
    split
    · exact (atMostSame_sublist n _ rest).cons_cons i
    · exact (atMostSame_sublist n kept rest).cons i

/-- The first issue of all is the first of its text. -/
theorem atMostSame_eq_nil_iff {n : Nat} (hn : 0 < n) (issues : List Issue) :
    atMostSame n [] issues = [] ↔ issues = [] := by
  cases issues with
  | nil => simp [atMostSame]
  | cons i rest => simp [atMostSame, hn]

theorem limit_sublist (o : CheckOptions) (issues : List Issue) :
    (limit o issues).Sublist issues := by
  have hfirst :
      (if 0 < o.maxIssues then issues.take o.maxIssues.toNat else issues).Sublist issues := by
    split
    · exact List.take_sublist _ _
    · exact .refl _
  unfold limit
  simp only
  split
  · exact (atMostSame_sublist _ _ _).trans hfirst
  · exact hfirst

/-- **No limits leave nothing of something.** -/
theorem limit_eq_nil_iff (o : CheckOptions) (issues : List Issue) :
    limit o issues = [] ↔ issues = [] := by
  have hfirst : (if 0 < o.maxIssues then issues.take o.maxIssues.toNat else issues) = [] ↔
      issues = [] := by
    split
    · have hpos : o.maxIssues.toNat ≠ 0 := by omega
      rw [List.take_eq_nil_iff, or_iff_right hpos]
    · rfl
  unfold limit
  simp only
  split
  · rw [atMostSame_eq_nil_iff (by omega), hfirst]
  · exact hfirst

/-- Without limits every issue is listed. -/
theorem limit_of_nonpos {o : CheckOptions} (hi : o.maxIssues ≤ 0) (hs : o.maxSame ≤ 0)
    (issues : List Issue) : limit o issues = issues := by
  have hi' : ¬0 < o.maxIssues := by omega
  have hs' : ¬0 < o.maxSame := by omega
  simp [limit, hi', hs']

/-! ## Judged declarations -/

/-- The verdict of a rule on a declaration. -/
def verdictOn (rule : Rule) (d : Declaration) : Verdict :=
  .judge rule.exceptions d.property d.value

/-- Whether a declaration violates a rule: it is checked, and its value is neither built from
variables alone nor allowed by the exceptions. -/
def violates (rule : Rule) (d : Declaration) : Bool :=
  rule.checks d.property && !(verdictOn rule d).allVariables && !(verdictOn rule d).excepted

/-- The issues of the declarations that violate a rule. -/
def issuesOf (rule : Rule) (severity : Bytes) (ds : List Declaration) : List Issue :=
  (ds.filter (violates rule)).map fun d => Issue.of severity d (verdictOn rule d)

theorem judged_eq (rule : Rule) (ds : List Declaration) : judged rule ds =
    (ds.filter fun d => rule.checks d.property).map fun d => (d, verdictOn rule d) := by
  induction ds with
  | nil => rfl
  | cons d ds ih =>
    have hcheck : rule.check? d.property d.value =
        if rule.checks d.property then some (verdictOn rule d) else none := rfl
    unfold judged at ih ⊢
    rw [List.filterMap_cons, hcheck, ih]
    cases hc : rule.checks d.property <;> simp [hc]

/-- **What is rejected** is what violates the rule. -/
theorem rejected_judged (rule : Rule) (ds : List Declaration) : rejected (judged rule ds) =
    (ds.filter (violates rule)).map fun d => (d, verdictOn rule d) := by
  rw [judged_eq, rejected, List.filter_map, List.filter_filter]
  refine congrArg _ (List.filter_congr fun d _ => ?_)
  rw [violates, Bool.and_assoc, Bool.and_comm]
  simp [Verdict.accepted]

/-- A violation has a literal to show. -/
theorem literals_ne_nil_of_violates {rule : Rule} {d : Declaration} (h : violates rule d = true) :
    (verdictOn rule d).literals ≠ [] := by
  intro hnil
  have hall : (verdictOn rule d).allVariables = (verdictOn rule d).literals.isEmpty := rfl
  simp [violates, hall, hnil] at h

/-- **Every judged declaration is counted once.** -/
theorem length_eq_accepted_add_rejected (js : List (Declaration × Verdict)) :
    js.length = js.countP (fun (_, v) => v.allVariables) +
      js.countP (fun (_, v) => !v.allVariables && v.excepted) + (rejected js).length := by
  unfold rejected
  induction js with
  | nil => rfl
  | cons j js ih =>
    obtain ⟨d, v⟩ := j
    simp only [List.countP_cons, List.filter_cons, List.length_cons, Verdict.accepted] at ih ⊢
    cases v.allVariables <;> cases v.excepted <;> simp at ih ⊢ <;> omega

/-! ## Groups and counts -/

theorem nodup_bySeverity_keys (issues : List Issue) : ((bySeverity issues).map Prod.fst).Nodup := by
  simpa [bySeverity, Function.comp_def] using Tally.nodup_distinct (issues.map Issue.severity)

/-- A group holds the issues of its severity, in their order, and there is one. -/
theorem mem_bySeverity {issues : List Issue} {g : Bytes × List Issue} (h : g ∈ bySeverity issues) :
    g.2 = (issues.filter fun i => i.severity == g.1) ∧ g.2 ≠ [] := by
  obtain ⟨s, hs, rfl⟩ := List.mem_map.1 h
  obtain ⟨i, hi, rfl⟩ := List.mem_map.1 (Tally.mem_distinct.1 hs)
  refine ⟨rfl, List.ne_nil_of_mem (a := i) ?_⟩
  simp [hi]

/-- The groups together hold every issue once. -/
theorem bySeverity_perm (issues : List Issue) :
    ((bySeverity issues).flatMap Prod.snd).Perm issues := by
  rw [bySeverity, List.flatMap_map]
  exact Tally.groups_perm Issue.severity (Tally.nodup_distinct _) fun i hi =>
    Tally.mem_distinct.2 (List.mem_map_of_mem hi)

/-- The occurrences of the listed literals are the first counts of the tally of all. -/
theorem sum_occurrences (ds : List Declaration) :
    ((topLiteralsOf ds).map LiteralCount.occurrences).sum =
      ((((Tally.ranked (ds.map Declaration.value)).take topLimit).map Prod.snd).sum : Nat) := by
  rw [topLiteralsOf, List.map_map, Nat.cast_list_sum, List.map_map]
  rfl

/-! ## Findings -/

section
variable (rule : Rule) (o : CheckOptions) (ds : List Declaration)

/-- What is checked is accepted for one of two reasons, or violates the rule. -/
theorem checked_eq : (ofDeclarations rule o ds).checked =
    (ofDeclarations rule o ds).acceptedByVariable + (ofDeclarations rule o ds).acceptedByException +
      (ofDeclarations rule o ds).violations := by
  have h := congrArg Int.ofNat (length_eq_accepted_add_rejected (judged rule ds))
  rw [Int.ofNat_eq_natCast, Int.ofNat_eq_natCast, Int.natCast_add, Int.natCast_add] at h
  exact h

/-- Issues are listed exactly where there are violations. -/
theorem issues_eq_nil_iff :
    (ofDeclarations rule o ds).issues = [] ↔ (ofDeclarations rule o ds).violations = 0 := by
  simp [ofDeclarations, limit_eq_nil_iff]

theorem violations_pos_iff :
    0 < (ofDeclarations rule o ds).violations ↔ (ofDeclarations rule o ds).issues ≠ [] := by
  have hnonneg : 0 ≤ (ofDeclarations rule o ds).violations := Int.natCast_nonneg _
  rw [ne_eq, issues_eq_nil_iff]
  omega

/-- There are no violations exactly where everything that is checked is accepted. -/
theorem violations_eq_zero_iff : (ofDeclarations rule o ds).violations = 0 ↔
    (ofDeclarations rule o ds).acceptedByVariable + (ofDeclarations rule o ds).acceptedByException =
      (ofDeclarations rule o ds).checked := by
  rw [checked_eq]
  omega

/-- An issue has the severity that the options give. -/
theorem severity_of_mem_issues {i : Issue} (h : i ∈ (ofDeclarations rule o ds).issues) :
    i.severity = o.effectiveSeverity := by
  obtain ⟨_, -, rfl⟩ := List.mem_map.1 ((limit_sublist o _).subset h)
  rfl

/-- **Errors are counted exactly where there are violations** and these are graded as errors. -/
theorem errorCount_pos_iff : 0 < (ofDeclarations rule o ds).errorCount ↔
    o.effectiveSeverity = Severity.error ∧ 0 < (ofDeclarations rule o ds).violations := by
  have hcount : 0 < (ofDeclarations rule o ds).errorCount ↔
      ∃ i ∈ (ofDeclarations rule o ds).issues, i.severity = Severity.error := by
    simp [ofDeclarations, countSeverity, List.countP_pos_iff]
  rw [hcount, violations_pos_iff]
  constructor
  · rintro ⟨i, hi, he⟩
    exact ⟨(severity_of_mem_issues rule o ds hi).symm.trans he, List.ne_nil_of_mem hi⟩
  · rintro ⟨he, hne⟩
    obtain ⟨i, hi⟩ := List.exists_mem_of_ne_nil _ hne
    exact ⟨i, hi, (severity_of_mem_issues rule o ds hi).trans he⟩

theorem checked_eq_countP : (ofDeclarations rule o ds).checked =
    ds.countP fun d => rule.checks d.property := by
  simp [ofDeclarations, judged_eq, List.countP_eq_length_filter]

theorem acceptedByVariable_eq : (ofDeclarations rule o ds).acceptedByVariable =
    ds.countP fun d => rule.checks d.property && (verdictOn rule d).allVariables := by
  simp [ofDeclarations, judged_eq, List.countP_map, List.countP_filter, Function.comp_def,
    Bool.and_comm]

theorem violations_eq : (ofDeclarations rule o ds).violations =
    (ds.filter (violates rule)).length := by
  simp [ofDeclarations, rejected_judged]

theorem issues_eq : (ofDeclarations rule o ds).issues =
    limit o (issuesOf rule o.effectiveSeverity ds) := by
  simp [ofDeclarations, rejected_judged, issuesOf, Function.comp_def]

theorem truncated_eq : (ofDeclarations rule o ds).truncated =
    ((ds.filter (violates rule)).length : Int) - (ofDeclarations rule o ds).issues.length := by
  simp [ofDeclarations, rejected_judged]

theorem violationsByCategory_eq : (ofDeclarations rule o ds).violationsByCategory =
    (categoryCounts ((ds.filter (violates rule)).map Declaration.property)).map
      fun (c, n) => (c, (n : Int)) := by
  simp [ofDeclarations, rejected_judged, Function.comp_def]

theorem topLiterals_eq : (ofDeclarations rule o ds).topLiterals =
    topLiteralsOf (ds.filter (violates rule)) := by
  simp [ofDeclarations, rejected_judged, Function.comp_def]

end

/-- **The accounts of a run** over the declarations `ds`: how what is found, checked, accepted,
rejected, listed and counted hangs together. -/
structure Accounts (rule : Rule) (o : CheckOptions) (ds : List Declaration)
    (f : Findings) : Prop where
  found : f.found = ds.length
  checked_le : f.checked ≤ f.found
  checked : f.checked = f.acceptedByVariable + f.acceptedByException + f.violations
  checked_count : f.checked = ds.countP fun d => rule.checks d.property
  byVariable : f.acceptedByVariable =
    ds.countP fun d => rule.checks d.property && (verdictOn rule d).allVariables
  violations : f.violations = ds.countP (violates rule)
  /-- Limits are put on the issues of all violations. -/
  issues : f.issues = limit o (issuesOf rule o.effectiveSeverity ds)
  /-- So without limits the issues are those of all violations. -/
  unlimited : o.maxIssues ≤ 0 → o.maxSame ≤ 0 → f.issues = issuesOf rule o.effectiveSeverity ds
  literals : ∀ i ∈ issuesOf rule o.effectiveSeverity ds, i.literals ≠ []
  /-- An issue is listed or dropped. -/
  listed : f.issues.length + f.truncated = f.violations
  categories_nodup : (f.violationsByCategory.map Prod.fst).Nodup
  categories_pos : ∀ x ∈ f.violationsByCategory, 0 < x.2
  categories_sum : (f.violationsByCategory.map Prod.snd).sum = f.violations
  severities_nodup : (f.issuesBySeverity.map Prod.fst).Nodup
  /-- A group holds the listed issues of its severity, in their order. -/
  severity_group : ∀ g ∈ f.issuesBySeverity,
    g.2 = (f.issues.filter fun i => i.severity == g.1) ∧ g.2 ≠ []
  /-- Every listed issue is in one of the groups, and once. -/
  severities_perm : (f.issuesBySeverity.flatMap Prod.snd).Perm f.issues
  errors : f.errorCount = f.issues.countP fun i => i.severity == Severity.error
  warnings : f.warningCount = f.issues.countP fun i => i.severity == Severity.warning
  occurrences_le : (f.topLiterals.map LiteralCount.occurrences).sum ≤ f.violations
  /-- The listed literals are all there are unless there are more than ten. -/
  occurrences_eq_iff : (f.topLiterals.map LiteralCount.occurrences).sum = f.violations ↔
    ((ds.filter (violates rule)).map Declaration.value).toFinset.card ≤ 10

/-- **The accounts of every run balance**, whatever the rule, the options and the declarations. -/
theorem ofDeclarations_accounts (rule : Rule) (o : CheckOptions) (ds : List Declaration) :
    Accounts rule o ds (ofDeclarations rule o ds) where
  found := rfl
  checked_le := Int.ofNat_le.2 (List.length_filterMap_le _ _)
  checked := checked_eq rule o ds
  checked_count := checked_eq_countP rule o ds
  byVariable := acceptedByVariable_eq rule o ds
  violations := by rw [violations_eq, List.countP_eq_length_filter]
  issues := issues_eq rule o ds
  unlimited hi hs := by rw [issues_eq, limit_of_nonpos hi hs]
  literals i hi := by
    obtain ⟨d, hd, rfl⟩ := List.mem_map.1 hi
    exact literals_ne_nil_of_violates (List.mem_filter.1 hd).2
  listed := by
    rw [truncated_eq, violations_eq]
    omega
  categories_nodup := by
    rw [violationsByCategory_eq, List.map_map]
    exact Tally.nodup_ranked_keys _
  categories_pos x hx := by
    rw [violationsByCategory_eq] at hx
    obtain ⟨y, hy, rfl⟩ := List.mem_map.1 hx
    exact Int.natCast_pos.2 (Tally.ranked_pos _ hy)
  categories_sum := by
    have hsum :=
      Tally.sum_ranked (((ds.filter (violates rule)).map Declaration.property).map fun p =>
      (PropertyCategory.ofProperty p).name)
    rw [List.length_map, List.length_map] at hsum
    rw [violationsByCategory_eq, violations_eq, ← hsum, Nat.cast_list_sum, List.map_map,
      List.map_map]
    rfl
  severities_nodup := nodup_bySeverity_keys _
  severity_group _ := mem_bySeverity
  severities_perm := bySeverity_perm _
  errors := rfl
  warnings := rfl
  occurrences_le := by
    rw [topLiterals_eq, sum_occurrences, violations_eq]
    have h := Tally.sum_take_add_sum_drop_ranked
      ((ds.filter (violates rule)).map Declaration.value) topLimit
    rw [List.length_map] at h
    omega
  occurrences_eq_iff := by
    have h := Tally.sum_take_ranked_eq_iff
      ((ds.filter (violates rule)).map Declaration.value) topLimit
    rw [List.length_map] at h
    rw [topLiterals_eq, sum_occurrences, violations_eq, Int.natCast_inj, h]
    rfl

end VarLint.Findings
