import VarLint.Proofs.Accounting
import VarLint.Proofs.Gathering

/-!
# Linting a tree is merging what is found in its files

* `sum_sources`: a number that adds up over two lists of declarations adds up over style sheets. The
  numbers of the findings are such (`Accounting` has them as counts over the declarations, whatever
  the order in which they are ranked and grouped later).
* `merges_sources`: so findings without limits are the merge of the findings in the style sheets.
* `findingsOf_loadAll_none`: a run without a cache checks the style sheets it can read, and nothing
  but the number of skipped files tells of the others.
* `run_merges`: **a run merges what each of its files gives by itself**.
-/

namespace VarLint

namespace Findings

/-! ## Adding up -/

/-- The declarations of style sheets, one after the other. -/
def declarationsIn (sheets : List (Bytes × Bytes)) : List Declaration :=
  sheets.flatMap fun s => Stylesheet.declarations s.1 s.2

/-- A number of the findings that adds up over two lists of declarations, and has nothing to do with
the number of files, adds up over style sheets. -/
theorem sum_sources {rule : Rule} {o : CheckOptions} {g : Findings → Int}
    (hfiles : ∀ f n, g { f with filesScanned := n } = g f)
    (hadd : ∀ ds es, g (ofDeclarations rule o (ds ++ es)) =
      g (ofDeclarations rule o ds) + g (ofDeclarations rule o es)) (sheets : List (Bytes × Bytes)) :
    g (ofDeclarations rule o (declarationsIn sheets)) =
      ((sheets.map fun s => ofSource rule o s.1 s.2).map g).sum := by
  induction sheets with
  | nil =>
    have hnil := hadd [] []
    rw [List.append_nil] at hnil
    rw [declarationsIn, List.flatMap_nil, List.map_nil, List.map_nil, List.sum_nil]
    omega
  | cons s sheets ih =>
    have hsource : g (ofSource rule o s.1 s.2) =
        g (ofDeclarations rule o (Stylesheet.declarations s.1 s.2)) := hfiles _ 1
    rw [declarationsIn] at ih ⊢
    rw [List.flatMap_cons, hadd, ih, List.map_cons, List.map_cons, List.sum_cons, hsource]

/-- The violations that are counted under a category. -/
def violationsIn (f : Findings) (category : Bytes) : Int :=
  ((f.violationsByCategory.filter fun x => x.1 == category).map Prod.snd).sum

/-- A category counts the violations whose property is in it. -/
theorem violationsIn_eq (rule : Rule) (o : CheckOptions) (ds : List Declaration)
    (category : Bytes) : (ofDeclarations rule o ds).violationsIn category =
      (ds.filter (violates rule)).countP
      fun d => (PropertyCategory.ofProperty d.property).name == category := by
  have htally : (((categoryCounts ((ds.filter (violates rule)).map Declaration.property)).filter
      fun x => x.1 == category).map Prod.snd).sum = (ds.filter (violates rule)).countP
        fun d => (PropertyCategory.ofProperty d.property).name == category := by
    rw [categoryCounts, Tally.sum_ranked_of, List.count_eq_countP, List.countP_map, List.countP_map]
    rfl
  rw [violationsIn, violationsByCategory_eq, List.filter_map, List.map_map, ← htally,
    Nat.cast_list_sum, List.map_map]
  rfl

/-! ## Merging -/

/-- **The findings `f` are the merge of `parts`**: the issues one after the other, and the numbers
added up, also those of each category. -/
structure Merges (parts : List Findings) (f : Findings) : Prop where
  issues : f.issues = parts.flatMap Findings.issues
  found : f.found = (parts.map Findings.found).sum
  checked : f.checked = (parts.map Findings.checked).sum
  acceptedByVariable : f.acceptedByVariable = (parts.map Findings.acceptedByVariable).sum
  acceptedByException : f.acceptedByException = (parts.map Findings.acceptedByException).sum
  violations : f.violations = (parts.map Findings.violations).sum
  errorCount : f.errorCount = (parts.map Findings.errorCount).sum
  warningCount : f.warningCount = (parts.map Findings.warningCount).sum
  violationsIn : ∀ category,
    f.violationsIn category = (parts.map fun p => p.violationsIn category).sum

section
variable {o : CheckOptions} (hi : o.maxIssues ≤ 0) (hs : o.maxSame ≤ 0) (rule : Rule)
include hi hs

theorem issues_append (ds es : List Declaration) : (ofDeclarations rule o (ds ++ es)).issues =
    (ofDeclarations rule o ds).issues ++ (ofDeclarations rule o es).issues := by
  simp [issues_eq, limit_of_nonpos hi hs, issuesOf]

theorem issues_sources (sheets : List (Bytes × Bytes)) :
    (ofDeclarations rule o (declarationsIn sheets)).issues =
      (sheets.map fun s => ofSource rule o s.1 s.2).flatMap Findings.issues := by
  induction sheets with
  | nil => simp [declarationsIn, issues_eq, limit_of_nonpos hi hs, issuesOf]
  | cons s sheets ih =>
    rw [declarationsIn] at ih ⊢
    rw [List.flatMap_cons, issues_append hi hs, ih, List.map_cons, List.flatMap_cons]
    rfl

/-- **Findings without limits** are the merge of the findings in the style sheets. -/
theorem merges_sources (sheets : List (Bytes × Bytes)) :
    Merges (sheets.map fun s => ofSource rule o s.1 s.2)
      (ofDeclarations rule o (declarationsIn sheets)) := by
  have hchecked : ∀ ds es, (ofDeclarations rule o (ds ++ es)).checked =
      (ofDeclarations rule o ds).checked + (ofDeclarations rule o es).checked := by
    simp [checked_eq_countP]
  have hvariable : ∀ ds es, (ofDeclarations rule o (ds ++ es)).acceptedByVariable =
      (ofDeclarations rule o ds).acceptedByVariable +
        (ofDeclarations rule o es).acceptedByVariable := by
    simp [acceptedByVariable_eq]
  have hviolations : ∀ ds es, (ofDeclarations rule o (ds ++ es)).violations =
      (ofDeclarations rule o ds).violations + (ofDeclarations rule o es).violations := by
    simp [violations_eq]
  -- what is accepted by the exceptions is the rest of what is checked
  have hexception : ∀ ds es, (ofDeclarations rule o (ds ++ es)).acceptedByException =
      (ofDeclarations rule o ds).acceptedByException +
        (ofDeclarations rule o es).acceptedByException := by
    intro ds es
    have hall := checked_eq rule o (ds ++ es)
    rw [hchecked, hvariable, hviolations, checked_eq, checked_eq] at hall
    omega
  have hseverity : ∀ s ds es, (countSeverity s (ofDeclarations rule o (ds ++ es)).issues : Int) =
      countSeverity s (ofDeclarations rule o ds).issues +
        countSeverity s (ofDeclarations rule o es).issues := by
    intro s ds es
    rw [issues_append hi hs, countSeverity, List.countP_append, Int.natCast_add]
    rfl
  have hcategory : ∀ category ds es, (ofDeclarations rule o (ds ++ es)).violationsIn category =
      (ofDeclarations rule o ds).violationsIn category +
        (ofDeclarations rule o es).violationsIn category := by
    simp [violationsIn_eq]
  exact {
    issues := issues_sources hi hs rule sheets
    found := sum_sources (fun _ _ => rfl) (fun ds es => by simp [ofDeclarations]) sheets
    checked := sum_sources (fun _ _ => rfl) hchecked sheets
    acceptedByVariable := sum_sources (fun _ _ => rfl) hvariable sheets
    acceptedByException := sum_sources (fun _ _ => rfl) hexception sheets
    violations := sum_sources (fun _ _ => rfl) hviolations sheets
    errorCount := sum_sources (fun _ _ => rfl) (hseverity Severity.error) sheets
    warningCount := sum_sources (fun _ _ => rfl) (hseverity Severity.warning) sheets
    violationsIn := fun category => sum_sources (g := fun f => f.violationsIn category)
      (fun _ _ => rfl) (hcategory category) sheets }

end

end Findings

/-! ## Runs -/

namespace Lint

open Findings

theorem length_sheetsAt (d : Disk) (files : List Bytes) :
    (d.sheetsAt files).length = files.countP fun path => (d.contentAt path).isSome := by
  simp [Disk.sheetsAt, List.length_filterMap_eq_countP]

/-- **What a run checks without a cache** is what it can read. Of the other files it keeps their
number. -/
theorem findingsOf_loadAll_none (d : Disk) (rule : Rule) (o : CheckOptions) (skipped : Nat)
    (files : List Bytes) : findingsOf rule o skipped (loadAll d none files).1 =
      { ofDeclarations rule o (declarationsIn (d.sheetsAt files)) with
        filesScanned := (d.sheetsAt files).length
        filesSkipped := (skipped : Int) + (files.length - (d.sheetsAt files).length) } := by
  have hslots := loadAll_none d files
  have hloaded : (loadAll d none files).1.filterMap Slot.declarations? =
      (d.sheetsAt files).map fun s => Stylesheet.declarations s.1 s.2 := by
    have hat : d.declarationsAt = fun path =>
        ((d.contentAt path).map fun content => (path, content)).map
          fun s => Stylesheet.declarations s.1 s.2 := by
      funext path
      rw [Disk.declarationsAt, Option.map_map]
      rfl
    have hsome := congrArg (List.filterMap id) hslots
    rw [List.filterMap_map, List.filterMap_map, Function.id_comp, Function.id_comp, hat] at hsome
    rw [Disk.sheetsAt, List.map_filterMap, hsome]
  have hlength : (loadAll d none files).1.length = files.length := by
    simpa using congrArg List.length hslots
  unfold findingsOf
  simp only [hloaded, hlength, List.length_map]
  rfl

/-- **A run merges what each of its files gives by itself.** Without limits and without a cache, it
has findings wherever its scan succeeds. They are the merge, in the order of the scan, of the
findings in those scanned files that can be read, each read and checked by itself. The files that it
has scanned and skipped are those that the scan has discovered. A file that cannot be read changes
nothing but the number of skipped ones: any other run that reads the same style sheets has the same
findings, up to that number. -/
theorem run_merges (disk : Disk) (rule : Rule) (patterns : List Bytes) (o : CheckOptions)
    (ignore : IgnoreMemo) (scan : Scan.Result) (hi : o.maxIssues ≤ 0) (hs : o.maxSame ≤ 0)
    (hscan : (Scan.run disk ignore patterns).1 = some scan) :
    ∃ f, (run disk ⟨some rule, patterns, o⟩ false ⟨ignore, none⟩).answer = .ok f ∧
      Merges ((disk.sheetsAt scan.files).map fun s => ofSource rule o s.1 s.2) f ∧
      f.filesScanned = scan.files.countP (fun path => (disk.contentAt path).isSome) ∧
      f.filesScanned + f.filesSkipped = scan.discovered ∧
      ∀ (disk' : Disk) (patterns' : List Bytes) (ignore' : IgnoreMemo) (scan' : Scan.Result),
        (Scan.run disk' ignore' patterns').1 = some scan' →
        disk'.sheetsAt scan'.files = disk.sheetsAt scan.files →
        (run disk' ⟨some rule, patterns', o⟩ false ⟨ignore', none⟩).answer =
          .ok { f with filesSkipped := scan'.discovered - f.filesScanned } := by
  have hanswer : ∀ {disk : Disk} {patterns : List Bytes} {ignore : IgnoreMemo} {scan : Scan.Result},
      (Scan.run disk ignore patterns).1 = some scan →
      (run disk ⟨some rule, patterns, o⟩ false ⟨ignore, none⟩).answer =
        .ok { ofDeclarations rule o (declarationsIn (disk.sheetsAt scan.files)) with
          filesScanned := (disk.sheetsAt scan.files).length
          filesSkipped := (scan.skipped : Int) +
            (scan.files.length - (disk.sheetsAt scan.files).length) } := by
    intro disk patterns ignore scan h
    have hgather : gather disk patterns false ⟨ignore, none⟩ =
        .ok (scan.skipped, (loadAll disk none scan.files).1) := gather_of_scan h
    rw [run_answer_eq_map, hgather]
    exact congrArg Except.ok (findingsOf_loadAll_none disk rule o scan.skipped scan.files)
  refine ⟨_, hanswer hscan, { merges_sources hi hs rule (disk.sheetsAt scan.files) with }, ?_, ?_,
    ?_⟩
  · simp only [length_sheetsAt]
  · simp only [Scan.Result.discovered]
    omega
  · intro disk' patterns' ignore' scan' hscan' hsheets
    rw [hanswer hscan', hsheets]
    have hskipped :
        (scan'.skipped : Int) + (scan'.files.length - (disk.sheetsAt scan.files).length) =
        scan'.discovered - (disk.sheetsAt scan.files).length := by
      simp only [Scan.Result.discovered]
      omega
    rw [hskipped]

/-- A directory with a style sheet that cannot be read between two that can. -/
def partlyReadable : Disk :=
  ⟨.directory [("a.css", .file "p \x7b color: red \x7d" 1), ("b.css", .unreadable 2),
    ("c.css", .file "q \x7b color: tan; border-color: $c \x7d" 3)], "/"⟩

/-- The two readable ones are merged, and the other one is not missed. -/
theorem run_merges_partlyReadable :
    ∃ rule f, Rule.ofLiterals "/color/" [] = .ok rule ∧
      (Scan.run partlyReadable none ["*.css"]).1 = some ⟨["a.css", "b.css", "c.css"], 0⟩ ∧
      (run partlyReadable ⟨some rule, ["*.css"], {}⟩ false {}).answer = .ok f ∧
      f.violations = 2 ∧ f.checked = 3 ∧ f.filesScanned = 2 ∧ f.filesSkipped = 1 ∧
      (run partlyReadable ⟨some rule, ["[ac].css"], {}⟩ false {}).answer =
        .ok { f with filesSkipped := 0 } := by
  have hscan : (Scan.run partlyReadable none ["*.css"]).1 =
      some ⟨["a.css", "b.css", "c.css"], 0⟩ := by decide +kernel
  have hother : (Scan.run partlyReadable none ["[ac].css"]).1 = some ⟨["a.css", "c.css"], 0⟩ := by
    decide +kernel
  obtain ⟨rule, hrule, hviolations, hchecked⟩ : ∃ rule, Rule.ofLiterals "/color/" [] = .ok rule ∧
      (((partlyReadable.sheetsAt ["a.css", "b.css", "c.css"]).map
        fun s => ofSource rule {} s.1 s.2).map Findings.violations).sum = 2 ∧
      (((partlyReadable.sheetsAt ["a.css", "b.css", "c.css"]).map
        fun s => ofSource rule {} s.1 s.2).map Findings.checked).sum = 3 :=
    ⟨_, rfl, by decide +kernel, by decide +kernel⟩
  obtain ⟨f, hf, hmerge, hscanned, hall, hsame⟩ :=
    run_merges partlyReadable rule ["*.css"] {} none _ (by decide) (by decide) hscan
  have htwo : f.filesScanned = 2 := hscanned.trans (by decide +kernel)
  refine ⟨rule, f, hrule, hscan, hf, hmerge.violations.trans hviolations,
    hmerge.checked.trans hchecked, htwo, ?_, ?_⟩
  · have hthree : f.filesScanned + f.filesSkipped = 3 := hall
    omega
  · rw [hsame partlyReadable ["[ac].css"] none _ hother (by decide +kernel), htwo]
    rfl

end Lint

end VarLint
