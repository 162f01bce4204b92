import VarLint.Proofs.CacheCoherence

/-!
# The loads of a session

All that a session does to its cache is to load files through it, one by one or in runs.

* `LoadStep c d path answer c'`: what a load can do. It fails where nothing is found, uses the entry
  that fits, or drops what does not and reads the file. `throughCache_step`: nothing else happens.
* `Loads c events c'`: some loads, each on the disk at hand, take one cache to another.
* `Session.history`: the loads of a session in order, those of its runs included. They are what
  becomes of the cache (`loads_history`).
-/

namespace VarLint

/-! ## One load -/

/-- The entry was made of a file with this size and time of modification. -/
def CacheEntry.Fits (e : CacheEntry) (s : Stat) : Prop := e.size = s.size ∧ e.modified = s.modified

namespace Cache

theorem others_of_find?_eq_none {c : Cache} {path : Bytes} (h : c.find? path = none) :
    c.others path = c.entries := by
  refine List.filter_eq_self.2 fun x hx => ?_
  have hne := List.lookup_eq_none_iff.1 h x hx
  rw [Bool.not_eq_true', beq_eq_false_iff_ne]
  exact fun he => by simp [he] at hne

theorem erase_of_find?_eq_none {c : Cache} {path : Bytes} (h : c.find? path = none) :
    c.erase path = c := by
  rw [erase, others_of_find?_eq_none h]

theorem others_erase (c : Cache) (path : Bytes) : (c.erase path).others path = c.others path := by
  simp [others, erase]

theorem insert_erase (c : Cache) (path : Bytes) (e : CacheEntry) :
    (c.erase path).insert path e = c.insert path e := by
  rw [insert, others_erase]
  rfl

end Cache

/-- **What a load of a path can do** on a disk: how it answers, and which cache it leaves. -/
inductive LoadStep (c : Cache) (d : Disk) (path : Bytes) : Except LoadError Loaded → Cache → Prop
  | notFound {cause : DiskError} (hstat : d.stat path = .error cause) :
      LoadStep c d path (.error (.stat path cause)) c
  | hit {s : Stat} {e : CacheEntry} (hstat : d.stat path = .ok s) (hfind : c.find? path = some e)
      (hfits : e.Fits s) : LoadStep c d path (.ok ⟨e.declarations, true⟩) (c.insert path e)
  | unreadable {s : Stat} {cause : LoadError} (hstat : d.stat path = .ok s)
      (hnone : ∀ e, c.find? path = some e → ¬e.Fits s)
      (hparse : Loaded.parse d path = .error cause) :
      LoadStep c d path (.error cause) (c.erase path)
  | miss {s : Stat} {ds : List Declaration} (hstat : d.stat path = .ok s)
      (hnone : ∀ e, c.find? path = some e → ¬e.Fits s) (hparse : Loaded.parse d path = .ok ds) :
      LoadStep c d path (.ok ⟨ds, false⟩) (c.insert path ⟨s.size, s.modified, ds⟩)

theorem Cache.lookup_eq (c : Cache) (path : Bytes) (s : Stat) :
    (∃ e, c.find? path = some e ∧ e.Fits s ∧
        c.lookup path s = (some e.declarations, c.insert path e)) ∨
      (∀ e, c.find? path = some e → ¬e.Fits s) ∧ c.lookup path s = (none, c.erase path) := by
  unfold Cache.lookup
  cases hf : c.find? path with
  | none => exact .inr ⟨by simp, by rw [erase_of_find?_eq_none hf]⟩
  | some e =>
    by_cases hfits : e.Fits s
    · exact .inl ⟨e, rfl, hfits, if_pos hfits⟩
    · exact .inr ⟨by simpa using hfits, if_neg hfits⟩

/-- **A load is one of these steps.** -/
theorem throughCache_step (d : Disk) (c : Cache) (path : Bytes) :
    LoadStep c d path (Loaded.throughCache d c path).1 (Loaded.throughCache d c path).2 := by
  unfold Loaded.throughCache
  cases hs : d.stat path with
  | error cause => exact .notFound hs
  | ok s =>
    obtain ⟨e, hf, hfits, hl⟩ | ⟨hnone, hl⟩ := c.lookup_eq path s
    · simp only [hl]
      exact .hit hs hf hfits
    · -- what does not fit is dropped before the file is read
      simp only [hl]
      cases hp : Loaded.parse d path with
      | error cause => exact .unreadable hs hnone hp
      | ok ds =>
        simp only [Cache.insert_erase]
        exact .miss hs hnone hp

/-! ## Loads in a row -/

/-- A load that has happened: on which disk, of which file, and what it answered. -/
structure LoadEvent where
  disk : Disk
  file : Bytes
  answer : Except LoadError Loaded

/-- The loads take one cache to another. -/
inductive Loads : Cache → List LoadEvent → Cache → Prop
  | nil {c : Cache} : Loads c [] c
  | cons {c m c' : Cache} {x : LoadEvent} {xs : List LoadEvent}
      (hstep : LoadStep c x.disk x.file x.answer m) (hloads : Loads m xs c') : Loads c (x :: xs) c'

namespace Loads

theorem append {c m c' : Cache} {xs ys : List LoadEvent} (h : Loads c xs m) (h' : Loads m ys c') :
    Loads c (xs ++ ys) c' := by
  induction h with
  | nil => exact h'
  | cons hstep _ ih => exact .cons hstep (ih h')

theorem exists_of_cons {c c' : Cache} {x : LoadEvent} {xs : List LoadEvent} :
    Loads c (x :: xs) c' → ∃ m, LoadStep c x.disk x.file x.answer m ∧ Loads m xs c'
  | .cons hstep hloads => ⟨_, hstep, hloads⟩

theorem exists_of_append {c c' : Cache} : ∀ {xs ys : List LoadEvent}, Loads c (xs ++ ys) c' →
    ∃ m, Loads c xs m ∧ Loads m ys c'
  | [], _, h => ⟨c, .nil, h⟩
  | _ :: _, _, .cons hstep h => by
    obtain ⟨m, hx, hy⟩ := exists_of_append h
    exact ⟨m, .cons hstep hx, hy⟩

end Loads

namespace Lint

/-- What a run loads: the files of its scan, or nothing if it does not come to that. -/
def filesLoaded (disk : Disk) (job : LintJob) (cancelled : Bool) (memory : LintMemory) :
    List Bytes :=
  match job.rule, (Scan.run disk memory.ignore job.patterns).1 with
  | some _, some scan => if cancelled then [] else scan.files
  | _, _ => []

/-- **A run leaves the cache** that the loads of its files leave. -/
theorem run_cache (disk : Disk) (job : LintJob) (cancelled : Bool) (memory : LintMemory) :
    (run disk job cancelled memory).memory.cache =
      (loadAll disk memory.cache (filesLoaded disk job cancelled memory)).2 := by
  unfold run filesLoaded
  cases job.rule with
  | none => rfl
  | some rule =>
    simp only
    obtain ⟨_ | ⟨files, skipped⟩, ignore⟩ := Scan.run disk memory.ignore job.patterns
    · rfl
    · cases cancelled with
      | false => rfl
      | true => cases files <;> rfl

/-- Files loaded one after another. -/
def events (d : Disk) (cache : Option Cache) (files : List Bytes) : List LoadEvent :=
  (loadAll d cache files).1.map fun slot => ⟨d, slot.file, slot.answer⟩

theorem loads_events (d : Disk) : ∀ (files : List Bytes) (c : Cache),
    ∃ c', (loadAll d (some c) files).2 = some c' ∧ Loads c (events d (some c) files) c'
  | [], c => ⟨c, rfl, .nil⟩
  | file :: files, c => by
    obtain ⟨c', hc', hloads⟩ := loads_events d files (Loaded.throughCache d c file).2
    exact ⟨c', hc', .cons (throughCache_step d c file) hloads⟩

end Lint

/-! ## Sessions -/

namespace Session

/-- The files that a step loads. -/
def Step.files (d : Disk) (m : LintMemory) : Step → List Bytes
  | put _ _ => []
  | remove _ => []
  | load path => [path]
  | lint job cancelled => Lint.filesLoaded d job cancelled m

/-- The loads of a step. -/
def Step.loads (d : Disk) (m : LintMemory) (step : Step) : List LoadEvent :=
  Lint.events d m.cache (step.files d m)

/-- **The loads of a session**, in order. -/
def history (s : State) : List Step → List LoadEvent
  | [] => []
  | step :: steps => step.loads s.disk s.memory ++ history (s.next step) steps

theorem next_cache (s : State) (step : Step) :
    (s.next step).memory.cache =
      (Lint.loadAll s.disk s.memory.cache (step.files s.disk s.memory)).2 := by
  cases step with
  | put path node => rfl
  | remove path => rfl
  | load path => rfl
  | lint job cancelled => exact Lint.run_cache s.disk job cancelled s.memory

/-- **The cache of a session** is what its loads have made of the first one. -/
theorem loads_history : ∀ (steps : List Step) {s : State} {c : Cache}, s.memory.cache = some c →
    ∃ c', (s.after steps).memory.cache = some c' ∧ Loads c (history s steps) c'
  | [], _, c, hc => ⟨c, hc, .nil⟩
  | step :: steps, s, c, hc => by
    obtain ⟨m, hm, hstep⟩ := Lint.loads_events s.disk (step.files s.disk s.memory) c
    have hnext : (s.next step).memory.cache = some m := by rw [next_cache, hc, hm]
    obtain ⟨c', hc', hloads⟩ := loads_history steps hnext
    refine ⟨c', hc', .append (m := m) ?_ hloads⟩
    rw [Step.loads, hc]
    exact hstep

theorem loads_start (disk : Disk) (ignore : IgnoreMemo) (size : Int) (steps : List Step) :
    ∃ c, ((State.start disk ignore size).after steps).memory.cache = some c ∧
      Loads (Cache.empty size) (history (State.start disk ignore size) steps) c :=
  loads_history steps rfl

/-- A disk with two style sheets. -/
def twoFiles : Disk :=
  ⟨.directory [("a.css", .file "color:red" 1), ("b.css", .file "color:tan" 1)], "/"⟩

end Session

end VarLint
