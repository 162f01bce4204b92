import VarLint.Proofs.CacheCoherence

/-!
# What a run gathers

* `run_answer_eq_map`: a run first gathers declarations and then checks them; only the second part
  knows the rule and the options.
* `gather_of_scan`: a run that is not cancelled gathers something from every scan that succeeds.
* `loadAll_none`: without a cache, what it gathers is what the disk has to read at the scanned paths
  (`Disk.sheetsAt`).
-/

namespace VarLint

namespace Lint

/-- What a run checks: the number of the files that were left out before, and the loaded files. -/
def gather (disk : Disk) (patterns : List Bytes) (cancelled : Bool) (memory : LintMemory) :
    Except LintError (Nat × List Slot) :=
  match (Scan.run disk memory.ignore patterns).1 with
  | none => .error .malformedPattern
  | some scan =>
    if cancelled && !scan.files.isEmpty then .error .cancelled
    else .ok (scan.skipped, (loadAll disk memory.cache scan.files).1)

/-- **A run gathers, then checks.** -/
theorem run_answer_eq_map (disk : Disk) (rule : Rule) (patterns : List Bytes) (o : CheckOptions)
    (cancelled : Bool) (memory : LintMemory) :
    (run disk ⟨some rule, patterns, o⟩ cancelled memory).answer =
      (gather disk patterns cancelled memory).map fun (skipped, slots) =>
        findingsOf rule o skipped slots := by
  unfold run gather
  obtain ⟨_ | scan, ignore⟩ := Scan.run disk memory.ignore patterns
  · rfl
  · simp only
    split <;> rfl

/-- The findings of a run that succeeds are those of what it gathers. -/
theorem gather_of_run_ok {disk : Disk} {rule : Rule} {patterns : List Bytes} {o : CheckOptions}
    {cancelled : Bool} {memory : LintMemory} {f : Findings}
    (h : (run disk ⟨some rule, patterns, o⟩ cancelled memory).answer = .ok f) :
    ∃ skipped slots, gather disk patterns cancelled memory = .ok (skipped, slots) ∧
      f = findingsOf rule o skipped slots := by
  rw [run_answer_eq_map] at h
  cases hg : gather disk patterns cancelled memory with
  | error e =>
    rw [hg] at h
    cases h
  | ok gathered =>
    rw [hg] at h
    cases h
    exact ⟨gathered.1, gathered.2, rfl, rfl⟩

/-- A run that is not cancelled loads every file that its scan finds. -/
theorem gather_of_scan {disk : Disk} {patterns : List Bytes} {memory : LintMemory}
    {scan : Scan.Result} (h : (Scan.run disk memory.ignore patterns).1 = some scan) :
    gather disk patterns false memory =
      .ok (scan.skipped, (loadAll disk memory.cache scan.files).1) := by
  simp [gather, h]

end Lint

/-- The style sheets among the files that can be read, each with its content. -/
def Disk.sheetsAt (d : Disk) (files : List Bytes) : List (Bytes × Bytes) :=
  files.filterMap fun path => (d.contentAt path).map fun content => (path, content)

namespace Lint

theorem stampsTell_singleton (d : Disk) : StampsTell [d] := by
  intro d₁ h₁ d₂ h₂ _ _ _ _
  rw [List.mem_singleton.1 h₁, List.mem_singleton.1 h₂]

/-- **Without a cache** the files offer the declarations of what the disk has at their paths. -/
theorem loadAll_none (d : Disk) (files : List Bytes) :
    (loadAll d none files).1.map Slot.declarations? = files.map d.declarationsAt :=
  (loadAll_spec (stampsTell_singleton d) (List.mem_singleton_self d) files
    (coherentIfAny_none [d])).1

end Lint

end VarLint
