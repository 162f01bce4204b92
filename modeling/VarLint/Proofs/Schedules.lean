import VarLint.Proofs.Gathering

/-!
# Schedules

The files of a run may be loaded in any order, through one cache that all of them share, and the run
may be cancelled at any moment. A file's task looks first whether the run is cancelled; if not, it
loads the file and fills the file's slot. A slot that is never filled looks like that of an empty
file.

* `Cache.ValidOn d c`: no entry of `c` that would be used for a file of `d` deceives. A load gives
  what the disk has whether it hits or misses, and leaves such a cache (`load_of_valid`). So it does
  not matter which loads were made before, and what they have promoted, dropped or evicted.
* `run_failed_iff`: a run of the tasks fails exactly if one of them comes after the cancellation.
* `Served.run`: if it does not fail, it has filled the slot of every task with what the disk has.
* `run_answer_eq_scheduled`: the run that loads its files one after another is one of the schedules.
* `scheduled_answer`: **every schedule ends in the error about the cancellation, or like the run in
  file order without a cache**.
-/

namespace VarLint

/-! ## Caches that do not deceive -/

/-- A cache that is there does not deceive. -/
def ValidIfAny (d : Disk) (cache : Option Cache) : Prop := ∀ c, cache = some c → c.ValidOn d

theorem load_of_valid {d : Disk} {cache : Option Cache} (hc : ValidIfAny d cache) (path : Bytes) :
    Loaded.declarations? (Loaded.load d cache path).1 = d.declarationsAt path ∧
      ValidIfAny d (Loaded.load d cache path).2 := by
  cases cache with
  | none => exact ⟨load_none d path, fun _ h => by cases h⟩
  | some c =>
    obtain ⟨hload, hentries⟩ := throughCache_of_valid (hc c rfl) path
    refine ⟨hload, fun c' h => ?_⟩
    cases h
    intro x hx hfits
    rcases hentries x hx with hx | ⟨-, hds⟩
    · exact hc c rfl x hx hfits
    · exact hds

namespace Lint

/-! ## Tasks -/

/-- What happens next: the run is cancelled, or the task of a file has its turn. -/
inductive Event where
  | cancel
  | task (i : Nat)
  deriving DecidableEq, Repr

/-- The file whose task has its turn. -/
def Event.task? : Event → Option Nat
  | cancel => none
  | task i => some i

/-- What the tasks of a run share. -/
structure Pool where
  cache : Option Cache
  /-- Whether the run has been cancelled. -/
  cancelled : Bool
  /-- Whether a task has found the run cancelled. -/
  failed : Bool
  slots : List Slot

namespace Pool

/-- A slot before its task has run. -/
def unfilled (file : Bytes) : Slot := ⟨file, .ok ⟨[], false⟩⟩

/-- The state before the first task. -/
def start (cache : Option Cache) (files : List Bytes) : Pool :=
  ⟨cache, false, false, files.map unfilled⟩

/-- One event. A task that finds the run cancelled gives up; otherwise it loads its file and fills
its own slot. -/
def step (disk : Disk) (p : Pool) : Event → Pool
  | .cancel => { p with cancelled := true }
  | .task i =>
    if p.cancelled then { p with failed := true }
    else match p.slots[i]? with
      | none => p
      | some slot =>
        let (answer, cache) := Loaded.load disk p.cache slot.file
        { p with cache, slots := p.slots.set i ⟨slot.file, answer⟩ }

/-- The state after some events. -/
def run (disk : Disk) (p : Pool) (events : List Event) : Pool := events.foldl (step disk) p

@[simp] theorem run_nil (disk : Disk) (p : Pool) : p.run disk [] = p := rfl

@[simp] theorem run_cons (disk : Disk) (p : Pool) (e : Event) (events : List Event) :
    p.run disk (e :: events) = (p.step disk e).run disk events := rfl

end Pool

/-- A run whose tasks have their turns as the events say. The slots are looked at only if no task
has given up. -/
def runScheduled (disk : Disk) (job : LintJob) (memory : LintMemory) (events : List Event) :
    Except LintError Findings :=
  match job.rule with
  | none => .error .noRule
  | some rule =>
    match (Scan.run disk memory.ignore job.patterns).1 with
    | none => .error .malformedPattern
    | some scan =>
      let pool := (Pool.start memory.cache scan.files).run disk events
      if pool.failed then .error .cancelled
      else .ok (findingsOf rule job.options scan.skipped pool.slots)

/-- Each of `n` tasks has its turn once, in any order, and the run may be cancelled at any point. -/
def IsSchedule (n : Nat) (events : List Event) : Prop :=
  (events.filterMap Event.task?).Perm (List.range n)

/-- Some task has its turn after the run has been cancelled. -/
def Observed (events : List Event) : Prop :=
  ∃ before i after, events = before ++ .task i :: after ∧ .cancel ∈ before

/-! ## Cancellation -/

theorem observed_cancel_cons {events : List Event} :
    Observed (.cancel :: events) ↔ ∃ i, .task i ∈ events := by
  constructor
  · rintro ⟨_ | ⟨b, before⟩, i, after, he, hm⟩
    · simp at hm
    · obtain ⟨-, rfl⟩ := List.cons.inj he
      exact ⟨i, by simp⟩
  · rintro ⟨i, hi⟩
    obtain ⟨before, after, rfl⟩ := List.append_of_mem hi
    exact ⟨.cancel :: before, i, after, rfl, by simp⟩

theorem observed_task_cons {i : Nat} {events : List Event} :
    Observed (.task i :: events) ↔ Observed events := by
  constructor
  · rintro ⟨_ | ⟨b, before⟩, j, after, he, hm⟩
    · simp at hm
    · obtain ⟨rfl, rfl⟩ := List.cons.inj he
      exact ⟨before, j, after, rfl, by simpa using hm⟩
  · rintro ⟨before, j, after, rfl, hm⟩
    exact ⟨.task i :: before, j, after, rfl, List.mem_cons_of_mem _ hm⟩

namespace Pool

/-- A task that does not give up changes neither the cancellation nor what was found of it. -/
theorem step_task_flags (disk : Disk) {p : Pool} (h : p.cancelled = false) (i : Nat) :
    (p.step disk (.task i)).cancelled = false ∧ (p.step disk (.task i)).failed = p.failed := by
  simp only [step, h, Bool.false_eq_true, if_false]
  split
  · exact ⟨h, rfl⟩
  · exact ⟨rfl, rfl⟩

/-- **A run of tasks fails** exactly if it had failed before, or some task comes after the
cancellation. -/
theorem run_failed_iff (disk : Disk) : ∀ (events : List Event) (p : Pool),
    (p.run disk events).failed = true ↔
      p.failed = true ∨ (p.cancelled = true ∧ ∃ i, .task i ∈ events) ∨ Observed events
  | [], p => by simp [Observed]
  | .cancel :: events, p => by
    have hlater : Observed events → ∃ i, .task i ∈ events := by
      rintro ⟨before, i, after, rfl, -⟩
      exact ⟨i, by simp⟩
    rw [run_cons, run_failed_iff disk events, observed_cancel_cons]
    simp only [step, true_and, List.mem_cons, reduceCtorEq, false_or]
    grind
  | .task i :: events, p => by
    rw [run_cons, run_failed_iff disk events, observed_task_cons]
    cases hc : p.cancelled with
    | true => simp [step, hc]
    | false =>
      obtain ⟨hcancelled, hfailed⟩ := step_task_flags disk hc i
      simp [hcancelled, hfailed]

theorem start_failed_iff (disk : Disk) (cache : Option Cache) (files : List Bytes)
    (events : List Event) : ((start cache files).run disk events).failed = true ↔
      Observed events := by
  simp [run_failed_iff, start]

/-! ## Slots -/

/-- The tasks that are `done` have filled their slots with what the disk has, through a cache that
does not deceive. -/
structure Served (disk : Disk) (files : List Bytes) (done : Nat → Prop) (p : Pool) : Prop where
  cache : ValidIfAny disk p.cache
  files : p.slots.map Slot.file = files
  slots : ∀ i, done i → ∀ slot, p.slots[i]? = some slot →
    slot.declarations? = disk.declarationsAt slot.file

/-- **A task that does not give up** fills its own slot and leaves the others as they are. -/
theorem Served.step_task {disk : Disk} {files : List Bytes} {done : Nat → Prop} {p : Pool}
    (h : Served disk files done p) (hc : p.cancelled = false) (i : Nat) :
    Served disk files (fun j => done j ∨ j = i) (p.step disk (.task i)) := by
  simp only [step, hc, Bool.false_eq_true, if_false]
  cases hi : p.slots[i]? with
  | none =>
    refine ⟨h.cache, h.files, fun j hj slot hslot => ?_⟩
    rcases hj with hj | rfl
    · exact h.slots j hj slot hslot
    · rw [hi] at hslot
      cases hslot
  | some old =>
    obtain ⟨hload, hvalid⟩ := load_of_valid h.cache old.file
    have hlt : i < p.slots.length := (List.getElem?_eq_some_iff.1 hi).1
    refine ⟨hvalid, ?_, fun j hj slot hslot => ?_⟩
    · rw [← h.files, List.map_set]
      refine List.ext_getElem? fun j => ?_
      by_cases hij : i = j
      · subst hij
        rw [List.getElem?_set_self (by simpa using hlt), List.getElem?_map, hi]
        rfl
      · rw [List.getElem?_set_ne hij]
    · by_cases hij : i = j
      · subst hij
        rw [List.getElem?_set_self hlt] at hslot
        cases hslot
        rw [Slot.declarations?_eq]
        exact hload
      · rw [List.getElem?_set_ne hij] at hslot
        exact h.slots j (hj.resolve_right (Ne.symm hij)) slot hslot

/-- **A run of tasks that does not fail** has filled the slots of all of them. -/
theorem Served.run {disk : Disk} {files : List Bytes} :
    ∀ {events : List Event} {done : Nat → Prop} {p : Pool}, Served disk files done p →
      (p.run disk events).failed = false →
      Served disk files (fun j => done j ∨ .task j ∈ events) (p.run disk events)
  | [], _, _, h, _ => ⟨h.cache, h.files, fun j hj => h.slots j (hj.resolve_right (by simp))⟩
  | .cancel :: events, done, p, h, hf => by
    have hstep : Served disk files done (p.step disk .cancel) := ⟨h.cache, h.files, h.slots⟩
    have hrun := hstep.run hf
    exact ⟨hrun.cache, hrun.files, fun j hj => hrun.slots j (by simpa using hj)⟩
  | .task i :: events, done, p, h, hf => by
    have hc : p.cancelled = false := by
      -- otherwise this task would have given up
      rw [← Bool.not_eq_true] at hf ⊢
      exact fun hc => hf ((run_failed_iff disk _ p).2 (.inr (.inl ⟨hc, i, by simp⟩)))
    have hrun := (h.step_task hc i).run hf
    refine ⟨hrun.cache, hrun.files, fun j hj => hrun.slots j ?_⟩
    rcases hj with hj | hj
    · exact .inl (.inl hj)
    · rcases List.mem_cons.1 hj with he | hj
      · exact .inl (.inr (by simpa using he))
      · exact .inr hj

theorem served_start (disk : Disk) {cache : Option Cache} (hc : ValidIfAny disk cache)
    (files : List Bytes) : Served disk files (fun _ => False) (start cache files) :=
  ⟨hc, by simp [start, unfilled, Function.comp_def], fun _ h => h.elim⟩

end Pool

theorem IsSchedule.task_mem {n : Nat} {events : List Event} (h : IsSchedule n events) {i : Nat}
    (hi : i < n) : .task i ∈ events := by
  obtain ⟨e, he, hi⟩ := List.mem_filterMap.1 (h.mem_iff.2 (List.mem_range.2 hi))
  cases e with
  | cancel => cases hi
  | task j =>
    cases hi
    exact he

/-- **Every schedule fills every slot** with what the disk has, unless some task has found the run
cancelled. -/
theorem slots_of_schedule {disk : Disk} {cache : Option Cache} (hc : ValidIfAny disk cache)
    {files : List Bytes} {events : List Event} (hs : IsSchedule files.length events)
    (ho : ¬Observed events) :
    ((Pool.start cache files).run disk events).slots.map Slot.declarations? =
      files.map disk.declarationsAt := by
  have hf : ((Pool.start cache files).run disk events).failed = false := by
    rw [← Bool.not_eq_true, Pool.start_failed_iff]
    exact ho
  have h := (Pool.served_start disk hc files).run hf
  have hslot : ∀ slot ∈ ((Pool.start cache files).run disk events).slots,
      slot.declarations? = disk.declarationsAt slot.file := by
    intro slot hslot
    obtain ⟨i, hi⟩ := List.mem_iff_getElem?.1 hslot
    have hlt : i < files.length := by
      rw [← h.files, List.length_map]
      exact (List.getElem?_eq_some_iff.1 hi).1
    exact h.slots i (.inr (hs.task_mem hlt)) slot hi
  calc ((Pool.start cache files).run disk events).slots.map Slot.declarations?
      = ((Pool.start cache files).run disk events).slots.map (disk.declarationsAt ∘ Slot.file) :=
        List.map_congr_left hslot
    _ = files.map disk.declarationsAt := by rw [← List.map_map, h.files]

/-! ## Runs -/

/-- A schedule in the order of the files, which may be cancelled at the start. -/
def inOrder (cancelled : Bool) (n : Nat) : List Event :=
  (if cancelled then [.cancel] else []) ++ (List.range' 0 n).map .task

/-- Tasks in the order of their files load these one after another. -/
theorem run_tasks_inOrder (disk : Disk) : ∀ (files : List Bytes) (cache : Option Cache)
    (filled : List Slot),
    (Pool.mk cache false false (filled ++ files.map Pool.unfilled)).run disk
        ((List.range' filled.length files.length).map .task) =
      ⟨(loadAll disk cache files).2, false, false, filled ++ (loadAll disk cache files).1⟩
  | [], cache, filled => by simp [loadAll]
  | file :: files, cache, filled => by
    have hstep : (Pool.mk cache false false (filled ++ (file :: files).map Pool.unfilled)).step disk
          (.task filled.length) =
        ⟨(Loaded.load disk cache file).2, false, false,
          (filled ++ [⟨file, (Loaded.load disk cache file).1⟩]) ++ files.map Pool.unfilled⟩ := by
      simp [Pool.step, Pool.unfilled]
    have ih := run_tasks_inOrder disk files (Loaded.load disk cache file).2
      (filled ++ [⟨file, (Loaded.load disk cache file).1⟩])
    rw [List.length_append, List.length_singleton] at ih
    have hevents : ((List.range' filled.length (file :: files).length).map Event.task) =
        .task filled.length :: (List.range' (filled.length + 1) files.length).map .task := by
      rw [List.length_cons, List.range'_succ, List.map_cons]
    rw [hevents, Pool.run_cons, hstep, ih, List.append_assoc]
    rfl

/-- **A run is a schedule**: the one in the order of the files. -/
theorem run_answer_eq_scheduled (disk : Disk) (job : LintJob) (cancelled : Bool)
    (memory : LintMemory) {scan : Scan.Result}
    (hscan : (Scan.run disk memory.ignore job.patterns).1 = some scan) :
    (run disk job cancelled memory).answer =
      runScheduled disk job memory (inOrder cancelled scan.files.length) := by
  obtain ⟨_ | rule, patterns, o⟩ := job
  · rfl
  · rw [run_answer_eq_map]
    simp only [gather, runScheduled, hscan]
    cases cancelled with
    | false =>
      have hrun := run_tasks_inOrder disk scan.files memory.cache []
      have hpool : (Pool.start memory.cache scan.files).run disk (inOrder false scan.files.length) =
        ⟨(loadAll disk memory.cache scan.files).2, false, false,
          (loadAll disk memory.cache scan.files).1⟩ := hrun
      simp [hpool, Except.map]
    | true =>
      cases hfiles : scan.files with
      | nil => rfl
      | cons file files =>
        -- the first task comes after the cancellation
        have hobserved : Observed (inOrder true (file :: files).length) :=
          observed_cancel_cons.2 ⟨0, by simp⟩
        have hfailed := (Pool.start_failed_iff disk memory.cache (file :: files) _).2 hobserved
        rw [if_pos hfailed]
        rfl

/-! ## Every schedule -/

theorem isSchedule_inOrder (n : Nat) : IsSchedule n (inOrder false n) := by
  have hid : Event.task? ∘ Event.task = some := rfl
  have htasks : (inOrder false n).filterMap Event.task? = List.range n := by
    rw [inOrder, if_neg Bool.false_ne_true, List.nil_append, List.filterMap_map, hid,
      List.filterMap_some, List.range_eq_range']
  rw [IsSchedule, htasks]

theorem not_observed_inOrder (n : Nat) : ¬Observed (inOrder false n) := by
  rintro ⟨before, i, after, he, hm⟩
  have hmem : Event.cancel ∈ inOrder false n := by
    rw [he]
    exact List.mem_append_left _ hm
  simp [inOrder] at hmem

section
variable {disk : Disk} {rule : Rule} {patterns : List Bytes} {o : CheckOptions}
    {ignore : IgnoreMemo}
  {cache : Option Cache} {scan : Scan.Result} {events : List Event}
  (hscan : (Scan.run disk ignore patterns).1 = some scan)
include hscan

theorem runScheduled_of_observed (ho : Observed events) :
    runScheduled disk ⟨some rule, patterns, o⟩ ⟨ignore, cache⟩ events = .error .cancelled := by
  have hfailed := (Pool.start_failed_iff disk cache scan.files events).2 ho
  simp [runScheduled, hscan, hfailed]

theorem runScheduled_of_not_observed (ho : ¬Observed events) :
    runScheduled disk ⟨some rule, patterns, o⟩ ⟨ignore, cache⟩ events =
      .ok (findingsOf rule o scan.skipped
        ((Pool.start cache scan.files).run disk events).slots) := by
  have hfailed : ((Pool.start cache scan.files).run disk events).failed = false := by
    rw [← Bool.not_eq_true, Pool.start_failed_iff]
    exact ho
  simp [runScheduled, hscan, hfailed]

end

/-- **The order of the tasks and the cache have no say.** Let a scan succeed, let the tasks of its
files have their turns in any order, through a cache that does not deceive or none, and let the run
be cancelled at any point or never. If some task finds it cancelled, the run ends in the error about
that; otherwise it has the findings of the run that loads the files in their order and without a
cache. -/
theorem scheduled_answer (disk : Disk) (rule : Rule) (patterns : List Bytes) (o : CheckOptions)
    (ignore : IgnoreMemo) (cache : Option Cache) (scan : Scan.Result) (events : List Event)
    (hscan : (Scan.run disk ignore patterns).1 = some scan)
    (hcache : ∀ c, cache = some c → c.ValidOn disk)
    (hevents : IsSchedule scan.files.length events) :
    (Observed events ∧
      runScheduled disk ⟨some rule, patterns, o⟩ ⟨ignore, cache⟩ events = .error .cancelled) ∨
    (¬Observed events ∧ ∃ f,
      runScheduled disk ⟨some rule, patterns, o⟩ ⟨ignore, cache⟩ events = .ok f ∧
      (run disk ⟨some rule, patterns, o⟩ false ⟨ignore, none⟩).answer = .ok f) := by
  by_cases ho : Observed events
  · exact .inl ⟨ho, runScheduled_of_observed hscan ho⟩
  · have hcalm := not_observed_inOrder scan.files.length
    have hnone : ValidIfAny disk none := fun _ h => by cases h
    -- both schedules fill every slot with what the disk has
    have hsame : ((Pool.start cache scan.files).run disk events).slots.map Slot.declarations? =
        ((Pool.start none scan.files).run disk (inOrder false scan.files.length)).slots.map
          Slot.declarations? :=
      (slots_of_schedule hcache hevents ho).trans
        (slots_of_schedule hnone (isSchedule_inOrder _) hcalm).symm
    refine .inr ⟨ho, _, runScheduled_of_not_observed hscan ho, ?_⟩
    rw [run_answer_eq_scheduled disk ⟨some rule, patterns, o⟩ false ⟨ignore, none⟩ hscan,
      runScheduled_of_not_observed hscan hcalm, findingsOf_congr hsame]

/-- Two style sheets. -/
def twoSheets : Disk :=
  ⟨.directory [("a.css", .file "color:red" 1), ("b.css", .file "color:tan" 2)], "/"⟩

/-- A cache that has the first of them and, under a time that has passed, something else for the
other one. -/
def twoEntries : Cache :=
  ⟨2, [("a.css", ⟨9, 1, Stylesheet.declarations "a.css" "color:red"⟩), ("b.css", ⟨9, 1, []⟩)]⟩

/-- Loaded the other way round, and cancelled after that, the style sheets are checked as always;
cancelled before the second one, they are not. -/
theorem scheduled_answer_twoSheets :
    twoEntries.ValidOn twoSheets ∧ ∀ rule,
      (∃ f, runScheduled twoSheets ⟨some rule, ["*.css"], {}⟩ ⟨none, some twoEntries⟩
          [.task 1, .task 0, .cancel] = .ok f ∧
        (run twoSheets ⟨some rule, ["*.css"], {}⟩ false {}).answer = .ok f) ∧
      runScheduled twoSheets ⟨some rule, ["*.css"], {}⟩ ⟨none, some twoEntries⟩
        [.task 1, .cancel, .task 0] = .error .cancelled := by
  have hscan : (Scan.run twoSheets none ["*.css"]).1 = some ⟨["a.css", "b.css"], 0⟩ := by
    decide +kernel
  have hvalid : twoEntries.ValidOn twoSheets := by
    unfold Cache.ValidOn
    decide +kernel
  have hcache : ∀ c, some twoEntries = some c → c.ValidOn twoSheets := by
    intro c h
    cases h
    exact hvalid
  refine ⟨hvalid, fun rule => ⟨?_, ?_⟩⟩
  · obtain ⟨ho, -⟩ | ⟨-, h⟩ := scheduled_answer twoSheets rule ["*.css"] {} none (some twoEntries) _
      [.task 1, .task 0, .cancel] hscan hcache (List.Perm.swap 0 1 [])
    · -- no task comes after the cancellation
      rw [observed_task_cons, observed_task_cons, observed_cancel_cons] at ho
      simp at ho
    · exact h
  · obtain ⟨-, h⟩ | ⟨ho, -⟩ := scheduled_answer twoSheets rule ["*.css"] {} none (some twoEntries) _
      [.task 1, .cancel, .task 0] hscan hcache (List.Perm.swap 0 1 [])
    · exact h
    · exact absurd (observed_task_cons.2 (observed_cancel_cons.2 ⟨0, by simp⟩)) ho

end Lint

end VarLint
