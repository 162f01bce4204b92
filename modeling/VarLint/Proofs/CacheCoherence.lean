import VarLint.Lint

/-!
# Sessions with a cache answer like sessions without one

A session changes files, loads declarations and makes runs, with one cache from its start to its
end. The cache trusts an entry while the file has the entry's *stamp*, its size and time of
modification.

* `StampsTell disks`: two of the disks on which a path has the same stamp show the same content
  there.
* `Coherent disks c`: every entry of `c` holds the declarations of what one of the disks has at its
  path under its stamp.
* `Cache.ValidOn d c`: the entries of `c` that fit a file of `d` hold its declarations, which is so
  if `c` is coherent (`Coherent.validOn`). A load may drop, promote or evict entries, and adds only
  what the disk at hand has (`throughCache_of_valid`).
* `run_answer_eq`: a run sees its files through `Slot.declarations?` alone, so it cannot tell a
  coherent cache from none.
* `answer_withoutCache`: **every step of a session** that starts with an empty cache answers as it
  does without the cache, if the stamps tell the contents of its disks apart.
* `stale_after_touching_back`: new stamps for new contents are not enough. A file that gets back an
  earlier stamp after its content has changed is answered with the earlier declarations.
-/

namespace VarLint

/-! ## What a disk shows of a path -/

namespace Disk

/-- The content at a path, if there is one to read. -/
def contentAt (d : Disk) (path : Bytes) : Option Bytes := (d.read path).toOption

/-- The size and the time of modification at a path. -/
def stampAt (d : Disk) (path : Bytes) : Option (Nat × Int) :=
  (d.stat path).toOption.map fun s => (s.size, s.modified)

theorem stampAt_of_stat {d : Disk} {path : Bytes} {s : Stat} (h : d.stat path = .ok s) :
    d.stampAt path = some (s.size, s.modified) := by
  simp [stampAt, h, Except.toOption]

/-- Nothing is read where nothing is found. -/
theorem contentAt_of_stat_error {d : Disk} {path : Bytes} {e : DiskError}
    (h : d.stat path = .error e) : d.contentAt path = none := by
  unfold stat at h
  unfold contentAt read
  cases hf : d.find path with
  | error e' => rfl
  | ok n => rw [hf] at h; cases h

end Disk

/-- Two of the disks on which a path has the same stamp show the same content there. -/
def StampsTell (disks : List Disk) : Prop :=
  ∀ d ∈ disks, ∀ d' ∈ disks, ∀ path stamp, d.stampAt path = some stamp →
    d'.stampAt path = some stamp → d.contentAt path = d'.contentAt path

/-! ## Coherent caches -/

/-- Every entry holds the declarations of the content that one of the disks has at its path under
its stamp. -/
def Coherent (disks : List Disk) (c : Cache) : Prop :=
  ∀ x ∈ c.entries, ∃ d ∈ disks, ∃ content, d.stampAt x.1 = some (x.2.size, x.2.modified) ∧
    d.contentAt x.1 = some content ∧ x.2.declarations = Stylesheet.declarations x.1 content

theorem coherent_empty (disks : List Disk) (size : Int) : Coherent disks (Cache.empty size) := by
  intro x hx
  simp [Cache.empty] at hx

theorem Cache.mem_others {c : Cache} {path : Bytes} {x : Bytes × CacheEntry}
    (h : x ∈ c.others path) : x ∈ c.entries :=
  (List.mem_filter.1 h).1

theorem Cache.mem_of_find? {c : Cache} {path : Bytes} {e : CacheEntry} (h : c.find? path = some e) :
    (path, e) ∈ c.entries := by
  obtain ⟨before, after, heq, -⟩ := List.lookup_eq_some_iff.1 h
  rw [heq]
  simp

theorem Cache.mem_insert {c : Cache} {path : Bytes} {e : CacheEntry} {x : Bytes × CacheEntry}
    (h : x ∈ (c.insert path e).entries) : x = (path, e) ∨ x ∈ c.entries := by
  rcases List.mem_cons.1 (List.mem_of_mem_take h) with rfl | hx
  · exact .inl rfl
  · exact .inr (mem_others hx)

/-- **What a look-up can do**: use an entry of the path that fits, or find none and drop what does
not. -/
theorem Cache.lookup_cases (c : Cache) (path : Bytes) (s : Stat) :
    (∃ e, (path, e) ∈ c.entries ∧ e.size = s.size ∧ e.modified = s.modified ∧
      c.lookup path s = (some e.declarations, c.insert path e)) ∨
    ∃ c', c.lookup path s = (none, c') ∧ ∀ x ∈ c'.entries, x ∈ c.entries := by
  unfold Cache.lookup
  cases hf : c.find? path with
  | none => exact .inr ⟨c, rfl, fun _ hx => hx⟩
  | some e =>
    by_cases hfits : e.size = s.size ∧ e.modified = s.modified
    · exact .inl ⟨e, mem_of_find? hf, hfits.1, hfits.2, by simp [hfits]⟩
    · exact .inr ⟨c.erase path, by simp [hfits], fun _ hx => mem_others hx⟩

/-! ## Loading -/

/-- The declarations that a load gives, if it succeeds. -/
def Loaded.declarations? (answer : Except LoadError Loaded) : Option (List Declaration) :=
  answer.toOption.map Loaded.declarations

/-- The declarations of what a disk has at a path. -/
def Disk.declarationsAt (d : Disk) (path : Bytes) : Option (List Declaration) :=
  (d.contentAt path).map (Stylesheet.declarations path)

theorem parse_eq (d : Disk) (path : Bytes) :
    (Loaded.parse d path).toOption = d.declarationsAt path := by
  unfold Loaded.parse Disk.declarationsAt Disk.contentAt
  cases d.read path <;> rfl

theorem load_none (d : Disk) (path : Bytes) :
    Loaded.declarations? (Loaded.load d none path).1 = d.declarationsAt path := by
  rw [← parse_eq]
  unfold Loaded.load Loaded.declarations?
  cases Loaded.parse d path <;> rfl

/-- The entries that fit a file of the disk hold its declarations. -/
def Cache.ValidOn (d : Disk) (c : Cache) : Prop :=
  ∀ x ∈ c.entries, d.stampAt x.1 = some (x.2.size, x.2.modified) →
    d.declarationsAt x.1 = some x.2.declarations

/-- **A load through a cache that does not deceive about the path** gives what the disk has there,
and leaves entries that were there before, or one that is made of that. -/
theorem throughCache_of_validAt {d : Disk} {c : Cache} {path : Bytes}
    (hc : ∀ e, (path, e) ∈ c.entries → d.stampAt path = some (e.size, e.modified) →
      d.declarationsAt path = some e.declarations) :
    Loaded.declarations? (Loaded.throughCache d c path).1 = d.declarationsAt path ∧
      ∀ x ∈ (Loaded.throughCache d c path).2.entries, x ∈ c.entries ∨ x.1 = path ∧
        d.stampAt path = some (x.2.size, x.2.modified) ∧
          d.declarationsAt path = some x.2.declarations := by
  unfold Loaded.throughCache
  cases hs : d.stat path with
  | error e =>
    refine ⟨?_, fun _ hx => .inl hx⟩
    simp [Loaded.declarations?, Except.toOption, Disk.declarationsAt,
      Disk.contentAt_of_stat_error hs]
  | ok s =>
    have hstamp := Disk.stampAt_of_stat hs
    obtain ⟨e, hm, hsize, hmodified, hl⟩ | ⟨c', hl, hsub⟩ := c.lookup_cases path s
    · -- a hit, which makes the entry the most recent one
      rw [← hsize, ← hmodified] at hstamp
      simp only [hl]
      refine ⟨(hc _ hm hstamp).symm, fun x hx => .inl ?_⟩
      rcases Cache.mem_insert hx with rfl | hx
      · exact hm
      · exact hx
    · -- a miss, so the file is parsed
      have hp := parse_eq d path
      simp only [hl]
      cases hq : Loaded.parse d path with
      | error e => exact ⟨by rw [← hp, hq]; rfl, fun x hx => .inl (hsub x hx)⟩
      | ok ds =>
        rw [hq] at hp
        refine ⟨hp, fun x hx => ?_⟩
        rcases Cache.mem_insert hx with rfl | hx
        · exact .inr ⟨rfl, hstamp, hp.symm⟩
        · exact .inl (hsub x hx)

/-- A load through a cache that does not deceive about any file. -/
theorem throughCache_of_valid {d : Disk} {c : Cache} (hc : c.ValidOn d) (path : Bytes) :
    Loaded.declarations? (Loaded.throughCache d c path).1 = d.declarationsAt path ∧
      ∀ x ∈ (Loaded.throughCache d c path).2.entries, x ∈ c.entries ∨
        d.stampAt x.1 = some (x.2.size, x.2.modified) ∧
          d.declarationsAt x.1 = some x.2.declarations := by
  obtain ⟨hload, hentries⟩ := throughCache_of_validAt fun e he => hc (path, e) he
  refine ⟨hload, fun x hx => ?_⟩
  rcases hentries x hx with hx | ⟨rfl, hmade⟩
  · exact .inl hx
  · exact .inr hmade

/-- An entry whose stamp is the file's was made of the content that the file has. -/
theorem Coherent.validOn {disks : List Disk} (ht : StampsTell disks) {d : Disk} (hd : d ∈ disks)
    {c : Cache} (hc : Coherent disks c) : c.ValidOn d := by
  intro x hx hnow
  obtain ⟨d', hd', content, hst, hct, hds⟩ := hc x hx
  rw [Disk.declarationsAt, ht d hd d' hd' x.1 _ hnow hst, hct, hds]
  rfl

/-- **A load through a coherent cache** gives what the disk has at the path, and leaves the cache
coherent. -/
theorem throughCache_spec {disks : List Disk} (ht : StampsTell disks) {d : Disk} (hd : d ∈ disks)
    {c : Cache} (hc : Coherent disks c) (path : Bytes) :
    Loaded.declarations? (Loaded.throughCache d c path).1 = d.declarationsAt path ∧
      Coherent disks (Loaded.throughCache d c path).2 := by
  obtain ⟨hload, hentries⟩ := throughCache_of_valid (hc.validOn ht hd) path
  refine ⟨hload, fun x hx => ?_⟩
  rcases hentries x hx with hx | ⟨hstamp, hds⟩
  · exact hc x hx
  · obtain ⟨content, hct, heq⟩ := Option.map_eq_some_iff.1 hds
    exact ⟨d, hd, content, hstamp, hct, heq.symm⟩

/-- A cache that is there is coherent. -/
def CoherentIfAny (disks : List Disk) (cache : Option Cache) : Prop :=
  ∀ c, cache = some c → Coherent disks c

theorem coherentIfAny_none (disks : List Disk) : CoherentIfAny disks none := by
  intro c h
  cases h

theorem load_spec {disks : List Disk} (ht : StampsTell disks) {d : Disk} (hd : d ∈ disks)
    {cache : Option Cache} (hc : CoherentIfAny disks cache) (path : Bytes) :
    Loaded.declarations? (Loaded.load d cache path).1 = d.declarationsAt path ∧
      CoherentIfAny disks (Loaded.load d cache path).2 := by
  cases cache with
  | none => exact ⟨load_none d path, coherentIfAny_none disks⟩
  | some c =>
    obtain ⟨h1, h2⟩ := throughCache_spec ht hd (hc c rfl) path
    exact ⟨h1, fun c' h => by cases h; exact h2⟩

/-! ## Runs -/

namespace Lint

theorem Slot.declarations?_eq (s : Slot) : s.declarations? = Loaded.declarations? s.answer := by
  unfold Slot.declarations? Loaded.declarations?
  cases s.answer <;> rfl

/-- Loading one file after another through a coherent cache. -/
theorem loadAll_spec {disks : List Disk} (ht : StampsTell disks) {d : Disk} (hd : d ∈ disks) :
    ∀ (files : List Bytes) {cache : Option Cache}, CoherentIfAny disks cache →
      (loadAll d cache files).1.map Slot.declarations? = files.map d.declarationsAt ∧
        CoherentIfAny disks (loadAll d cache files).2
  | [], _, hc => ⟨rfl, hc⟩
  | file :: files, cache, hc => by
    obtain ⟨h1, hc1⟩ := load_spec ht hd hc file
    obtain ⟨h2, hc2⟩ := loadAll_spec ht hd files hc1
    refine ⟨?_, hc2⟩
    simp only [loadAll, List.map_cons]
    rw [h2, Slot.declarations?_eq, h1]

/-- Findings depend on what each slot has to offer, and on nothing else of it. -/
theorem findingsOf_congr {slots slots' : List Slot}
    (h : slots.map Slot.declarations? = slots'.map Slot.declarations?) (rule : Rule)
    (o : CheckOptions) (skipped : Nat) :
    findingsOf rule o skipped slots = findingsOf rule o skipped slots' := by
  have hload : slots.filterMap Slot.declarations? = slots'.filterMap Slot.declarations? := by
    have := congrArg (List.filterMap id) h
    simpa [List.filterMap_map] using this
  have hlen : slots.length = slots'.length := by
    have := congrArg List.length h
    simpa using this
  unfold findingsOf
  rw [hload, hlen]

/-- **Two runs with the same remembered ignore file** and coherent caches, or none, answer alike. -/
theorem run_answer_eq {disks : List Disk} (ht : StampsTell disks) {d : Disk} (hd : d ∈ disks)
    (job : LintJob) (cancelled : Bool) {m m' : LintMemory} (hi : m.ignore = m'.ignore)
    (hc : CoherentIfAny disks m.cache) (hc' : CoherentIfAny disks m'.cache) :
    (run d job cancelled m).answer = (run d job cancelled m').answer := by
  unfold run
  rw [hi]
  split
  · rfl
  · split
    · rfl
    · rename_i scan ignore _
      simp only
      split
      · rfl
      · simp only
        rw [findingsOf_congr ((loadAll_spec ht hd scan.files hc).1.trans
          (loadAll_spec ht hd scan.files hc').1.symm)]

theorem run_coherent {disks : List Disk} (ht : StampsTell disks) {d : Disk} (hd : d ∈ disks)
    (job : LintJob) (cancelled : Bool) {m : LintMemory} (hc : CoherentIfAny disks m.cache) :
    CoherentIfAny disks (run d job cancelled m).memory.cache := by
  unfold run
  split
  · exact hc
  · split
    · exact hc
    · rename_i scan ignore _
      simp only
      split
      · exact hc
      · exact (loadAll_spec ht hd scan.files hc).2

end Lint

/-! ## Sessions -/

namespace Session

/-- A step of a session: a change of the disk, a load, or a run. -/
inductive Step where
  | put (path : Bytes) (node : Node)
  | remove (path : Bytes)
  | load (path : Bytes)
  | lint (job : LintJob) (cancelled : Bool)

/-- What a step answers. A load answers with the declarations, if it succeeds. -/
inductive Answer where
  | changed
  | loaded (declarations : Option (List Declaration))
  | linted (answer : Except LintError Findings)

/-- The disk at hand, and what the steps so far have left in memory. -/
structure State where
  disk : Disk
  memory : LintMemory

/-- The disk after a step. -/
def Step.onDisk (d : Disk) : Step → Disk
  | put path node => d.put path node
  | remove path => d.remove path
  | load _ => d
  | lint _ _ => d

/-- The answer of a step, and the memory after it. -/
def Step.run (d : Disk) (m : LintMemory) : Step → Answer × LintMemory
  | put _ _ => (.changed, m)
  | remove _ => (.changed, m)
  | load path =>
    let (answer, cache) := Loaded.load d m.cache path
    (.loaded (Loaded.declarations? answer), { m with cache })
  | lint job cancelled =>
    let outcome := Lint.run d job cancelled m
    (.linted outcome.answer, outcome.memory)

namespace State

/-- What a step answers in a state. -/
def answer (s : State) (step : Step) : Answer := (step.run s.disk s.memory).1

/-- The state after a step. -/
def next (s : State) (step : Step) : State := ⟨step.onDisk s.disk, (step.run s.disk s.memory).2⟩

/-- The state after some steps. -/
def after (s : State) (steps : List Step) : State := steps.foldl next s

/-- The same state without its cache. The remembered ignore file stays. -/
def withoutCache (s : State) : State := { s with memory := { s.memory with cache := none } }

/-- The start of a session with an empty cache. -/
def start (disk : Disk) (ignore : IgnoreMemo) (size : Int) : State :=
  ⟨disk, ⟨ignore, some (Cache.empty size)⟩⟩

end State

/-- The disks of a session, from the first to the one after the last step. -/
def disks (d : Disk) : List Step → List Disk
  | [] => [d]
  | step :: steps => d :: disks (step.onDisk d) steps

theorem head_mem_disks (d : Disk) (steps : List Step) : d ∈ disks d steps := by
  cases steps <;> simp [disks]

/-- **A step** in a coherent state answers as it does without the cache, and leaves the state
coherent. -/
theorem step_spec {all : List Disk} (ht : StampsTell all) {s : State} (hd : s.disk ∈ all)
    (hc : CoherentIfAny all s.memory.cache) (step : Step) :
    s.answer step = s.withoutCache.answer step ∧ CoherentIfAny all (s.next step).memory.cache := by
  cases step with
  | put path node => exact ⟨rfl, hc⟩
  | remove path => exact ⟨rfl, hc⟩
  | load path =>
    obtain ⟨h1, h2⟩ := load_spec ht hd hc path
    exact ⟨congrArg Answer.loaded (h1.trans (load_none s.disk path).symm), h2⟩
  | lint job cancelled =>
    refine ⟨congrArg Answer.linted ?_, Lint.run_coherent ht hd job cancelled hc⟩
    exact Lint.run_answer_eq ht hd job cancelled rfl hc (coherentIfAny_none all)

/-- Steps keep a state on the session's disks and its cache coherent. -/
theorem after_coherent {all : List Disk} (ht : StampsTell all) :
    ∀ (steps : List Step) {s : State}, (∀ d ∈ disks s.disk steps, d ∈ all) →
      CoherentIfAny all s.memory.cache →
      (s.after steps).disk ∈ all ∧ CoherentIfAny all (s.after steps).memory.cache
  | [], s, hsub, hc => ⟨hsub _ (head_mem_disks s.disk []), hc⟩
  | step :: steps, s, hsub, hc => by
    have hd : s.disk ∈ all := hsub _ (head_mem_disks s.disk _)
    exact after_coherent ht steps (s := s.next step)
      (fun d h => hsub d (List.mem_cons_of_mem _ h)) (step_spec ht hd hc step).2

/-- **Every step of a session answers as it does without the cache**, whatever was changed, loaded
and linted before it, if the stamps tell the contents of the session's disks apart. -/
theorem answer_withoutCache (disk : Disk) (ignore : IgnoreMemo) (size : Int) (steps : List Step)
    (ht : StampsTell (disks disk steps)) (step : Step) :
    ((State.start disk ignore size).after steps).answer step =
      ((State.start disk ignore size).after steps).withoutCache.answer step := by
  have hc : CoherentIfAny (disks disk steps) (State.start disk ignore size).memory.cache := by
    intro c h
    cases h
    exact coherent_empty _ size
  obtain ⟨hd, hc'⟩ := after_coherent ht steps (s := State.start disk ignore size) (fun _ h => h) hc
  exact (step_spec ht hd hc' step).1

/-! ## A disk with one file -/

/-- The disk that holds one style sheet. -/
def oneFile (content : Bytes) (modified : Int) : Disk :=
  ⟨.directory [("a.css", .file content modified)], "/"⟩

/-- A path leads to the style sheet, to the root, or nowhere, whatever the style sheet holds. -/
theorem oneFile_follow (es : List Bytes) :
    (∃ e, ∀ c m, (oneFile c m).root.follow [] es = .error e) ∨
      (∀ c m, (oneFile c m).root.follow [] es = .ok (oneFile c m).root) ∨
      ∀ c m, (oneFile c m).root.follow [] es = .ok (.file c m) := by
  induction es with
  | nil => exact .inr (.inl fun _ _ => rfl)
  | cons e es ih =>
    by_cases hh : e == Path.here
    · simpa [oneFile, Node.follow, hh] using ih
    · by_cases hp : e == Path.parent
      · simpa [oneFile, Node.follow, hh, hp] using ih
      · by_cases ha : e == (Bytes.ofString "a.css")
        · cases es with
          | nil =>
            exact .inr (.inr fun c m => by simp [oneFile, Node.follow, hh, hp,
              List.lookup_cons, ha])
          | cons e' es =>
            exact .inl ⟨.notDirectory, fun c m => by
              simp [oneFile, Node.follow, hh, hp, List.lookup_cons, ha]⟩
        · exact .inl ⟨.noEntry, fun c m => by
            simp [oneFile, Node.follow, hh, hp, List.lookup_cons, ha]⟩

/-- A path finds the style sheet, the root, or nothing, whatever the style sheet holds. -/
theorem oneFile_find (path : Bytes) :
    (∃ e, ∀ c m, (oneFile c m).find path = .error e) ∨
      (∀ c m, (oneFile c m).find path = .ok (oneFile c m).root) ∨
      ∀ c m, (oneFile c m).find path = .ok (.file c m) := by
  -- the elements of a path do not depend on what the style sheet holds
  have hel : ∀ c m, (oneFile c m).elementsOf path = (oneFile [] 0).elementsOf path := fun _ _ => rfl
  by_cases he : path.isEmpty
  · exact .inl ⟨.noEntry, fun c m => by simp [Disk.find, he]⟩
  · obtain ⟨e, h⟩ | h | h := oneFile_follow ((oneFile [] 0).elementsOf path)
    · exact .inl ⟨e, fun c m => by simp [Disk.find, he, hel, h]⟩
    · refine .inr (.inl fun c m => ?_)
      have hdir : (oneFile c m).root.isDirectory = true := rfl
      simp [Disk.find, he, hel, h, hdir]
    · by_cases hs : path.getLast? = some Path.slash
      · exact .inl ⟨.notDirectory, fun c m => by simp [Disk.find, he, hel, h, hs, Node.isDirectory]⟩
      · exact .inr (.inr fun c m => by simp [Disk.find, he, hel, h, hs])

/-- A path shows the style sheet, or no content and the same stamp on all such disks. -/
theorem oneFile_at (path : Bytes) :
    (∃ stamp, ∀ c m, (oneFile c m).contentAt path = none ∧ (oneFile c m).stampAt path = stamp) ∨
      ∀ c m, (oneFile c m).contentAt path = some c ∧
        (oneFile c m).stampAt path = some (c.length, m) := by
  unfold Disk.contentAt Disk.stampAt Disk.read Disk.stat
  obtain ⟨e, h⟩ | h | h := oneFile_find path
  · exact .inl ⟨none, fun c m => by rw [h]; exact ⟨rfl, rfl⟩⟩
  · exact .inl ⟨some (0, 0), fun c m => by rw [h]; exact ⟨rfl, rfl⟩⟩
  · exact .inr fun c m => by rw [h]; exact ⟨rfl, rfl⟩

/-- Stamps tell the contents of one file apart if its versions of one size and time are the same. -/
theorem stampsTell_oneFile (versions : List (Bytes × Int))
    (h : ∀ v ∈ versions, ∀ v' ∈ versions, v.1.length = v'.1.length → v.2 = v'.2 → v.1 = v'.1) :
    StampsTell (versions.map fun v => oneFile v.1 v.2) := by
  intro d hd d' hd' path stamp hs hs'
  obtain ⟨v, hv, rfl⟩ := List.mem_map.1 hd
  obtain ⟨v', hv', rfl⟩ := List.mem_map.1 hd'
  obtain ⟨_, hp⟩ | hp := oneFile_at path
  · rw [(hp v.1 v.2).1, (hp v'.1 v'.2).1]
  · rw [(hp _ _).2] at hs hs'
    have hsame := hs.trans hs'.symm
    simp only [Option.some.injEq, Prod.mk.injEq] at hsame
    rw [(hp _ _).1, (hp _ _).1, h v hv v' hv' hsame.1 hsame.2]

/-- A style sheet is loaded, changed, loaded, touched, and loaded again. -/
def changeAndTouch : List Step :=
  [.load "a.css", .put "a.css" (.file "color:tan" 2), .load "a.css",
    .put "a.css" (.file "color:tan" 3)]

/-- A file that is changed and then touched, with a new time of modification at each write, is
loaded as without the cache. -/
theorem answer_withoutCache_changeAndTouch :
    StampsTell (disks (oneFile "color:red" 1) changeAndTouch) ∧
      ((State.start (oneFile "color:red" 1) none 1).after changeAndTouch).answer (.load "a.css") =
        ((State.start (oneFile "color:red" 1) none 1).after changeAndTouch).withoutCache.answer
          (.load "a.css") := by
  have ht : StampsTell (disks (oneFile "color:red" 1) changeAndTouch) := by
    exact stampsTell_oneFile
      [("color:red", 1), ("color:red", 1), ("color:tan", 2), ("color:tan", 2), ("color:tan", 3)]
      (by decide +kernel)
  exact ⟨ht, answer_withoutCache _ none 1 _ ht (.load "a.css")⟩

/-! ## A stamp that comes back -/

/-- Whenever the content at a path changes from one disk to the next, its stamp is one that the path
has on none of the disks before. -/
def NewStampsForNewContents (disks : List Disk) : Prop :=
  ∀ i d d', disks[i]? = some d → disks[i + 1]? = some d' → ∀ path stamp,
    d.contentAt path ≠ d'.contentAt path → d'.stampAt path = some stamp →
    ∀ e ∈ disks.take (i + 1), e.stampAt path ≠ some stamp

/-- A style sheet is loaded and changed, and then its time of modification is set back. -/
def touchBack : List Step :=
  [.load "a.css", .put "a.css" (.file "color:tan" 2), .put "a.css" (.file "color:tan" 1)]

/-- **A stamp that comes back deceives the cache**: the content has changed once, to a new stamp,
and the file is nevertheless answered with the declarations it had before. -/
theorem stale_after_touching_back :
    NewStampsForNewContents (disks (oneFile "color:red" 1) touchBack) ∧
      ((State.start (oneFile "color:red" 1) none 4).after touchBack).answer (.load "a.css") ≠
        ((State.start (oneFile "color:red" 1) none 4).after touchBack).withoutCache.answer
          (.load "a.css") := by
  refine ⟨?_, ?_⟩
  · have hdisks : disks (oneFile "color:red" 1) touchBack =
        [oneFile "color:red" 1, oneFile "color:red" 1, oneFile "color:tan" 2,
          oneFile "color:tan" 1] := rfl
    rw [hdisks]
    intro i d d' hd hd' path stamp hne hst e he
    obtain ⟨_, hp⟩ | hp := oneFile_at path
    · -- the path shows no content on any of the disks
      have hnone : ∀ x ∈ [oneFile "color:red" 1, oneFile "color:red" 1, oneFile "color:tan" 2,
          oneFile "color:tan" 1], x.contentAt path = none := by simp [hp]
      exact absurd ((hnone d (List.mem_of_getElem? hd)).trans
        (hnone d' (List.mem_of_getElem? hd')).symm) hne
    · rcases i with _ | _ | _ | i
      · cases hd; cases hd'; exact absurd rfl hne
      · -- the one change of the content
        cases hd; cases hd'
        rw [(hp _ _).2] at hst
        cases hst
        simp only [List.take_succ_cons, List.take_zero, List.mem_cons, List.not_mem_nil,
          or_false, or_self] at he
        subst he
        rw [(hp _ _).2]
        simp
      · cases hd; cases hd'
        exact absurd ((hp _ _).1.trans (hp _ _).1.symm) hne
      · simp at hd'
  · intro h
    injection h with h
    revert h
    decide +kernel

end Session

end VarLint
