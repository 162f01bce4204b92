import VarLint.Proofs.DiskPlaces
import VarLint.Proofs.Gathering
import VarLint.Proofs.ScanUnion
import VarLint.Proofs.WatchedChanges

/-!
# A watch never delivers stale findings

The runs of a watch share one cache, while files are created, replaced, removed and created again.
The watch is right as long as no file is written with a stamp that its place has had before.

* `Trusted seen d c`: every entry of `c` has a stamp among `seen`, and an entry that fits a file of
  `d` holds the declarations of that file. A disk with new stamps keeps it (`Trusted.change`), since
  no entry fits what is new. A run keeps it too, since it adds only what the disk has
  (`Trusted.run`).
* `Safe.step`, `Safe.run`: **signal by signal, a watch delivers what it would deliver without a
  cache**, whatever the signals are and in whatever order they come.
* `delivers_again`: without a cache, the results are those of runs on the disk as it stands, one for
  each group of changes that is seen (`Delivers`).
* `results_uncached`: both together, for whole watches.
-/

namespace VarLint

/-- A path that leads to a file shows the stamp and the content of the file at its place. -/
theorem Disk.shows_of_isFile {d : Disk} {path : Bytes} (h : Scan.isFile d path = true) :
    ∃ n s, d.root.at? (d.placeOf path) = some n ∧ n.stamp? = some s ∧ d.stampAt path = some s ∧
      d.declarationsAt path = n.content?.map (Stylesheet.declarations path) := by
  unfold Scan.isFile stat at h
  unfold stampAt declarationsAt contentAt stat read
  cases hf : d.find path with
  | error e => simp [hf, Except.map] at h
  | ok n =>
    rw [hf] at h
    cases n with
    | directory => cases h
    | file content modified => exact ⟨_, _, at?_of_find hf, rfl, rfl, rfl⟩
    | unreadable modified size => exact ⟨_, _, at?_of_find hf, rfl, rfl, rfl⟩

/-- The file at a place has the stamp. -/
def Disk.Has (d : Disk) (place : List Bytes) (s : Nat × Int) : Prop :=
  ∃ n, d.root.at? place = some n ∧ n.stamp? = some s

/-- The stamps of the entries, by the places of their paths. -/
def Cache.stampsOn (d : Disk) (c : Cache) : List (List Bytes × Nat × Int) :=
  c.entries.map fun x => (d.placeOf x.1, x.2.size, x.2.modified)

/-- The entries that fit the file at their place hold its declarations. -/
def Cache.Fits (d : Disk) (c : Cache) : Prop :=
  ∀ x ∈ c.entries, ∀ n ∈ d.root.at? (d.placeOf x.1), n.stamp? = some (x.2.size, x.2.modified) →
    n.content?.map (Stylesheet.declarations x.1) = some x.2.declarations

namespace Watch

/-! ## Caches that can be trusted -/

/-- What a watch relies on: the stamps of the files and of the entries have been seen, and the
entries that fit a file hold its declarations. -/
structure Trusted (seen : List Bytes → Nat × Int → Prop) (d : Disk) (c : Cache) : Prop where
  files : ∀ place s, d.Has place s → seen place s
  entries : ∀ x ∈ c.entries, seen (d.placeOf x.1) (x.2.size, x.2.modified)
  fits : c.Fits d

/-- An empty cache can be trusted. -/
theorem trusted_empty (d : Disk) (size : Int) : Trusted d.Has d (.empty size) where
  files _ _ h := h
  entries _ hx := by cases hx
  fits _ hx := by cases hx

/-- The stamps that the places have had, when these were `seen` and the disk became the given
ones. -/
def SeenWith (seen : List Bytes → Nat × Int → Prop) (disks : List Disk) (place : List Bytes)
    (s : Nat × Int) : Prop :=
  seen place s ∨ ∃ d ∈ disks, d.Has place s

@[simp] theorem seenWith_nil (seen : List Bytes → Nat × Int → Prop) : SeenWith seen [] = seen := by
  funext place s
  simp [SeenWith]

theorem seenWith_append (seen : List Bytes → Nat × Int → Prop) (front back : List Disk) :
    SeenWith (SeenWith seen front) back = SeenWith seen (front ++ back) := by
  funext place s
  simp only [SeenWith, List.mem_append, or_and_right, exists_or, or_assoc]

/-- The files of a disk are those of the one before, or have stamps that their places have not
had. -/
structure NewStamps (seen : List Bytes → Nat × Int → Prop) (d d' : Disk) : Prop where
  workingDirectory : d'.workingDirectory = d.workingDirectory
  files : ∀ place n s, d'.root.at? place = some n → n.stamp? = some s →
    d.root.at? place = some n ∨ ¬seen place s

namespace Trusted

variable {seen : List Bytes → Nat × Int → Prop} {d d' : Disk} {c : Cache}

/-- **A change that writes new stamps** leaves a cache that can be trusted. -/
theorem change (h : Trusted seen d c) (hnew : NewStamps seen d d') :
    Trusted (SeenWith seen [d']) d' c := by
  have hplace : ∀ path, d'.placeOf path = d.placeOf path := fun path => by
    simp only [Disk.placeOf, Disk.elementsOf, hnew.workingDirectory]
  refine ⟨fun place s hs => .inr ⟨d', by simp, hs⟩, fun x hx => ?_, fun x hx n hn hs => ?_⟩
  · rw [hplace]
    exact .inl (h.entries x hx)
  · rw [hplace] at hn
    rcases hnew.files _ n _ hn hs with hbefore | hunseen
    · exact h.fits x hx n hbefore hs
    · -- the entry would have the stamp of a file that has just been written
      exact absurd (h.entries x hx) hunseen

/-- **A load of a file** gives what the disk has, and leaves a cache that can be trusted. -/
theorem load (h : Trusted seen d c) {path : Bytes} (hfile : Scan.isFile d path = true) :
    Loaded.declarations? (Loaded.load d (some c) path).1 = d.declarationsAt path ∧
      ∃ c', (Loaded.load d (some c) path).2 = some c' ∧ Trusted seen d c' := by
  obtain ⟨n, s, hn, hs, hstamp, hshown⟩ := Disk.shows_of_isFile hfile
  have hvalid : ∀ e, (path, e) ∈ c.entries → d.stampAt path = some (e.size, e.modified) →
      d.declarationsAt path = some e.declarations := by
    intro e he hfits
    rw [hshown]
    exact h.fits (path, e) he n hn (hs.trans (hstamp.symm.trans hfits))
  obtain ⟨hload, hentries⟩ := throughCache_of_validAt hvalid
  refine ⟨hload, _, rfl, h.files, fun x hx => ?_, fun x hx m hm hfits => ?_⟩
  · rcases hentries x hx with hx | ⟨rfl, hmade, -⟩
    · exact h.entries x hx
    · exact h.files _ _ ⟨n, hn, hs.trans (hstamp.symm.trans hmade)⟩
  · rcases hentries x hx with hx | ⟨rfl, -, hmade⟩
    · exact h.fits x hx m hm hfits
    · rw [Option.mem_def, hn] at hm
      cases hm
      exact hshown.symm.trans hmade

theorem loadAll : ∀ {files : List Bytes} {c : Cache}, Trusted seen d c →
    (∀ path ∈ files, Scan.isFile d path = true) →
      (Lint.loadAll d (some c) files).1.map Lint.Slot.declarations? = files.map d.declarationsAt ∧
        ∃ c', (Lint.loadAll d (some c) files).2 = some c' ∧ Trusted seen d c'
  | [], c, h, _ => ⟨rfl, c, rfl, h⟩
  | file :: files, c, h, hfiles => by
    obtain ⟨hfirst, c₁, hc₁, h₁⟩ := h.load (hfiles file (by simp))
    obtain ⟨hrest, c₂, hc₂, h₂⟩ := h₁.loadAll fun path hp => hfiles path (List.mem_cons_of_mem _ hp)
    simp only [Lint.loadAll, List.map_cons, hc₁]
    refine ⟨?_, c₂, hc₂, h₂⟩
    rw [hrest, Lint.Slot.declarations?_eq, hfirst]

end Trusted

/-! ## Runs -/

theorem isFile_of_mem_scan {d : Disk} {ignore : IgnoreMemo} {patterns : List Bytes}
    {scan : Scan.Result} (h : (Scan.run d ignore patterns).1 = some scan) {path : Bytes}
    (hp : path ∈ scan.files) : Scan.isFile d path = true := by
  have hpatterns : ∀ p ∈ patterns, Glob.paths d p ≠ none := by
    intro p hp hnone
    rw [(Scan.run_eq_none_iff d ignore patterns).2 ⟨p, hp, hnone⟩] at h
    cases h
  rw [Scan.run_wellFormed d ignore hpatterns] at h
  cases h
  have hkept := (List.mem_filter.1 hp).2
  simp only [Scan.keeps, Bool.and_eq_true] at hkept
  exact hkept.1

/-- A run whose scan succeeds checks the files that it loads, and leaves the remembered ignore file
of the scan and the cache after the loads. -/
theorem run_of_scan {d : Disk} (rule : Rule) {patterns : List Bytes} (o : CheckOptions)
    {ignore : IgnoreMemo} (cache : Option Cache) {scan : Scan.Result}
    (h : (Scan.run d ignore patterns).1 = some scan) :
    (Lint.run d ⟨some rule, patterns, o⟩ false ⟨ignore, cache⟩).answer =
        .ok (Lint.findingsOf rule o scan.skipped (Lint.loadAll d cache scan.files).1) ∧
      (Lint.run d ⟨some rule, patterns, o⟩ false ⟨ignore, cache⟩).memory =
        ⟨(Scan.run d ignore patterns).2, (Lint.loadAll d cache scan.files).2⟩ := by
  unfold Lint.run
  simp only
  generalize Scan.run d ignore patterns = scanned at h ⊢
  obtain ⟨found, ignore'⟩ := scanned
  cases h
  exact ⟨rfl, rfl⟩

/-- A run whose scan fails leaves the cache. -/
theorem run_of_scan_none {d : Disk} (rule : Rule) {patterns : List Bytes} (o : CheckOptions)
    {ignore : IgnoreMemo} (cache : Option Cache) (h : (Scan.run d ignore patterns).1 = none) :
    (Lint.run d ⟨some rule, patterns, o⟩ false ⟨ignore, cache⟩).answer = .error .malformedPattern ∧
      (Lint.run d ⟨some rule, patterns, o⟩ false ⟨ignore, cache⟩).memory =
        ⟨(Scan.run d ignore patterns).2, cache⟩ := by
  unfold Lint.run
  simp only
  generalize Scan.run d ignore patterns = scanned at h ⊢
  obtain ⟨found, ignore'⟩ := scanned
  cases h
  exact ⟨rfl, rfl⟩

theorem loadAll_none_cache (d : Disk) : ∀ files : List Bytes, (Lint.loadAll d none files).2 = none
  | [] => rfl
  | _ :: files => loadAll_none_cache d files

/-- **A run through a cache that can be trusted** answers like a run without a cache, and leaves the
same remembered ignore file and a cache that can be trusted. -/
theorem Trusted.run {seen : List Bytes → Nat × Int → Prop} {d : Disk} {c : Cache}
    (h : Trusted seen d c) (job : LintJob) (ignore : IgnoreMemo) :
    (Lint.run d job false ⟨ignore, some c⟩).answer = (Lint.run d job false ⟨ignore, none⟩).answer ∧
      ∃ ignore' c', (Lint.run d job false ⟨ignore, some c⟩).memory = ⟨ignore', some c'⟩ ∧
        (Lint.run d job false ⟨ignore, none⟩).memory = ⟨ignore', none⟩ ∧ Trusted seen d c' := by
  obtain ⟨rule, patterns, o⟩ := job
  cases rule with
  | none => exact ⟨rfl, ignore, c, rfl, rfl, h⟩
  | some rule =>
    cases hscan : (Scan.run d ignore patterns).1 with
    | none =>
      obtain ⟨hanswer, hmemory⟩ := run_of_scan_none rule o (some c) hscan
      obtain ⟨hanswer', hmemory'⟩ := run_of_scan_none rule o none hscan
      exact ⟨hanswer.trans hanswer'.symm, _, c, hmemory, hmemory', h⟩
    | some scan =>
      obtain ⟨hslots, c', hc', h'⟩ := h.loadAll fun path => isFile_of_mem_scan hscan
      obtain ⟨hanswer, hmemory⟩ := run_of_scan rule o (some c) hscan
      obtain ⟨hanswer', hmemory'⟩ := run_of_scan rule o none hscan
      have hsame := hslots.trans (Lint.loadAll_none d scan.files).symm
      rw [Lint.findingsOf_congr hsame] at hanswer
      rw [hc'] at hmemory
      rw [loadAll_none_cache] at hmemory'
      exact ⟨hanswer.trans hanswer'.symm, _, c', hmemory, hmemory', h'⟩

/-! ## Signals -/

/-- The disk that a signal is about. -/
def Signal.disk? : Signal → Option Disk
  | .change d => some d
  | _ => none

/-- Disk after disk, the files are those of the one before or have new stamps. -/
def NewDisks : (List Bytes → Nat × Int → Prop) → Disk → List Disk → Prop
  | _, _, [] => True
  | seen, d, next :: rest => NewStamps seen d next ∧ NewDisks (SeenWith seen [next]) next rest

theorem newDisks_append : ∀ {front back : List Disk}
    {seen : List Bytes → Nat × Int → Prop} {d : Disk},
    NewDisks seen d (front ++ back) ↔
      NewDisks seen d front ∧ NewDisks (SeenWith seen front) (lastOf d front) back
  | [], _, _, _ => by simp [NewDisks, lastOf]
  | next :: front, back, seen, d => by
    rw [List.cons_append, NewDisks, NewDisks, newDisks_append, seenWith_append, and_assoc]
    rfl

/-- The watch as it would be without a cache. -/
def State.uncached (s : State) : State := { s with memory := { s.memory with cache := none } }

/-- A watch whose cache can be trusted. -/
def Safe (seen : List Bytes → Nat × Int → Prop) (s : State) : Prop :=
  ∃ c, s.memory.cache = some c ∧ Trusted seen s.disk c

/-- A turn is what it would be without a cache, and the cache can still be trusted. -/
structure Turn.Same (seen : List Bytes → Nat × Int → Prop) (t u : Turn) : Prop where
  findings : t.findings = u.findings
  state : t.state.uncached = u.state
  safe : Safe seen t.state

theorem step_disk (job : LintJob) (s : State) (signal : Signal) :
    (step job s signal).state.disk = lastOf s.disk signal.disk?.toList := by
  cases signal with
  | change d => rfl
  | event e => exact (handle_spec s e).2.1
  | tick =>
    cases hp : s.pending with
    | true => rw [step, (tick_of_pending job hp).1]; rfl
    | false => rw [step, tick_of_not_pending job hp]; rfl

theorem handle_uncached (s : State) (e : Event) :
    (s.handle e).state.uncached = (s.uncached.handle e).state := by
  simp only [State.handle, State.uncached]
  split_ifs <;> rfl

/-- **One signal.** -/
theorem Safe.step {seen : List Bytes → Nat × Int → Prop} {s : State} (h : Safe seen s)
    (job : LintJob) {signal : Signal} (hnew : NewDisks seen s.disk signal.disk?.toList) :
    Turn.Same (SeenWith seen signal.disk?.toList) (step job s signal)
      (step job s.uncached signal) := by
  obtain ⟨c, hc, htrusted⟩ := h
  cases signal with
  | change d => exact ⟨rfl, rfl, c, hc, htrusted.change hnew.1⟩
  | event e =>
    obtain ⟨hnone, hdisk, hmemory, -⟩ := handle_spec s e
    refine ⟨hnone.trans (handle_spec s.uncached e).1.symm, handle_uncached s e, c, ?_, ?_⟩
    · exact (congrArg LintMemory.cache hmemory).trans hc
    · simpa [Signal.disk?, Watch.step, hdisk] using htrusted
  | tick =>
    simp only [Signal.disk?, Option.toList, seenWith_nil, Watch.step]
    cases hp : s.pending with
    | false =>
      rw [tick_of_not_pending job hp, tick_of_not_pending job (s := s.uncached) hp]
      exact ⟨rfl, rfl, c, hc, htrusted⟩
    | true =>
      have hs : s.memory = ⟨s.memory.ignore, some c⟩ := by rw [← hc]
      obtain ⟨hanswer, ignore', c', hmemory, hmemory', h'⟩ := htrusted.run job s.memory.ignore
      obtain ⟨hstate, hfindings⟩ := tick_of_pending job hp
      obtain ⟨hstate', hfindings'⟩ := tick_of_pending job (s := s.uncached) hp
      rw [hs] at hstate hfindings
      refine ⟨?_, ?_, c', ?_, ?_⟩
      · rw [hfindings, hfindings', hanswer]
        rfl
      · rw [hstate, hstate', hmemory]
        simp only [State.uncached, hmemory']
      · rw [hstate, hmemory]
      · rw [hstate]
        exact h'

/-- **A watch delivers what it would deliver without a cache**, whatever the signals are. -/
theorem Safe.run (job : LintJob) : ∀ (signals : List Signal) {seen : List Bytes → Nat × Int → Prop}
    {s : State}, Safe seen s → NewDisks seen s.disk (signals.filterMap Signal.disk?) →
      Turn.Same (SeenWith seen (signals.filterMap Signal.disk?)) (Watch.run job s signals)
        (Watch.run job s.uncached signals)
  | [], _, _, h, _ => ⟨rfl, rfl, by simpa [Watch.run] using h⟩
  | signal :: rest, seen, s, h, hnew => by
    have hsplit : (signal :: rest).filterMap Signal.disk? =
        signal.disk?.toList ++ rest.filterMap Signal.disk? := by
      cases hd : signal.disk? <;> simp [hd]
    rw [hsplit, newDisks_append] at hnew
    have hnow := h.step job hnew.1
    have hlater := hnow.safe.run job rest (by rw [step_disk]; exact hnew.2)
    rw [hsplit, ← seenWith_append]
    simp only [Watch.run]
    rw [hnow.state] at hlater
    exact ⟨congrArg₂ _ hnow.findings hlater.findings, hlater.state, hlater.safe⟩

/-! ## Groups of changes -/

/-- The stamps of the files that a change writes, by place. -/
def Change.writes (d : Disk) : Change → List (List Bytes × Nat × Int)
  | put path node => node.stampsFrom (d.placeOf path)
  | remove _ => []

/-- Every file that the changes write gets a stamp that its place has not had: neither one of those
that are `seen`, nor one that an earlier change has written there. -/
def Fresh : List (List Bytes × Nat × Int) → Disk → List Change → Prop
  | _, _, [] => True
  | seen, d, change :: changes =>
    (∀ w ∈ change.writes d, w ∉ seen) ∧
      Fresh (seen ++ change.writes d) (change.apply d) changes

instance Fresh.decidable : ∀ (seen : List (List Bytes × Nat × Int)) (d : Disk)
    (changes : List Change), Decidable (Fresh seen d changes)
  | _, _, [] => inferInstanceAs (Decidable True)
  | seen, d, change :: changes =>
    have := decidable (seen ++ change.writes d) (change.apply d) changes
    inferInstanceAs (Decidable (_ ∧ _))

/-- **A file that is there after a change** was written by it, or was there before. -/
theorem Change.at?_apply {d : Disk} {change : Change} {place : List Bytes} {n : Node}
    {s : Nat × Int} (hs : n.stamp? = some s) (h : (change.apply d).root.at? place = some n) :
    (place, s) ∈ change.writes d ∨ d.root.at? place = some n := by
  have hfile := Node.isDirectory_of_stamp? hs
  cases change with
  | put path node =>
    obtain ⟨rest, rfl, hrest⟩ | hbefore := Node.at?_put hfile h
    · exact .inl (Node.mem_stampsFrom hs _ hrest)
    · exact .inr hbefore
  | remove path => exact .inr (Node.at?_remove hfile _ _ h)

theorem lastOf_stages : ∀ (group : List Change) (d : Disk),
    lastOf d (stages d group) = group.foldl Change.apply d
  | [], _ => rfl
  | change :: group, d => lastOf_stages group (change.apply d)

/-- The listed stamps hold those that are seen and those of the files. -/
structure Lists (stamps : List (List Bytes × Nat × Int)) (seen : List Bytes → Nat × Int → Prop)
    (d : Disk) : Prop where
  seen : ∀ place s, seen place s → (place, s) ∈ stamps
  files : ∀ place s, d.Has place s → (place, s) ∈ stamps

/-- A fresh change brings new stamps. -/
theorem Lists.newStamps {stamps : List (List Bytes × Nat × Int)}
    {seen : List Bytes → Nat × Int → Prop} {d : Disk} (h : Lists stamps seen d) {change : Change}
    (hnew : ∀ w ∈ change.writes d, w ∉ stamps) :
    NewStamps seen d (change.apply d) ∧
      Lists (stamps ++ change.writes d) (SeenWith seen [change.apply d]) (change.apply d) := by
  have hfiles : ∀ place s, (change.apply d).Has place s →
      (place, s) ∈ stamps ++ change.writes d := by
    rintro place s ⟨n, hn, hs⟩
    rcases Change.at?_apply hs hn with hwritten | hbefore
    · exact List.mem_append_right _ hwritten
    · exact List.mem_append_left _ (h.files place s ⟨n, hbefore, hs⟩)
  refine ⟨⟨by cases change <;> rfl, fun place n s hn hs => ?_⟩, ⟨?_, hfiles⟩⟩
  · rcases Change.at?_apply hs hn with hwritten | hbefore
    · exact .inr fun hseen => hnew _ hwritten (h.seen place s hseen)
    · exact .inl hbefore
  · rintro place s (hseen | ⟨d', hd', hhas⟩)
    · exact List.mem_append_left _ (h.seen place s hseen)
    · rw [List.mem_singleton] at hd'
      exact hfiles place s (hd' ▸ hhas)

/-- A group of fresh changes leads from disk to disk with new stamps, and leaves what comes later
fresh. -/
theorem Lists.newDisks : ∀ {group later : List Change} {stamps : List (List Bytes × Nat × Int)}
    {seen : List Bytes → Nat × Int → Prop} {d : Disk}, Lists stamps seen d →
      Fresh stamps d (group ++ later) →
      NewDisks seen d (stages d group) ∧ ∃ stamps',
        Lists stamps' (SeenWith seen (stages d group)) (group.foldl Change.apply d) ∧
          Fresh stamps' (group.foldl Change.apply d) later
  | [], _, stamps, _, _, h, hfresh => ⟨trivial, stamps, by simpa [stages] using h, hfresh⟩
  | change :: group, later, stamps, seen, d, h, hfresh => by
    obtain ⟨hnew, hlists⟩ := h.newStamps hfresh.1
    obtain ⟨hdisks, stamps', hlists', hlater⟩ := hlists.newDisks hfresh.2
    refine ⟨⟨hnew, hdisks⟩, stamps', ?_, hlater⟩
    rw [seenWith_append] at hlists'
    exact hlists'

theorem filterMap_round (s : State) (disks : List Disk) :
    (s.round disks).filterMap Signal.disk? = disks := by
  have hchanges : (disks.map Signal.change).filterMap Signal.disk? = disks := by
    simp [List.filterMap_map, Function.comp_def, Signal.disk?]
  have hevents : ((eventsThrough s.watched s.disk disks).map Signal.event).filterMap Signal.disk? =
      [] := by
    simp [List.filterMap_map, Function.comp_def, Signal.disk?]
  simp [State.round, List.filterMap_append, hchanges, hevents, Signal.disk?]

/-- **A watch delivers after each group what it would deliver without a cache.** -/
theorem Safe.again (job : LintJob) : ∀ (groups : List (List Change))
    {stamps : List (List Bytes × Nat × Int)} {seen : List Bytes → Nat × Int → Prop} {s : State},
      Safe seen s → s.pending = false → Lists stamps seen s.disk →
      Fresh stamps s.disk groups.flatten →
      Watch.again job s groups = Watch.again job s.uncached groups
  | [], _, _, _, _, _, _, _ => rfl
  | group :: groups, stamps, seen, s, h, hpending, hlists, hfresh => by
    obtain ⟨hdisks, stamps', hlists', hlater⟩ := hlists.newDisks hfresh
    have hround := filterMap_round s (stages s.disk group)
    have hsame := h.run job (s.round (stages s.disk group)) (hround.symm ▸ hdisks)
    obtain ⟨hdisk, hpending', -⟩ := run_round job hpending (stages s.disk group)
    rw [hround] at hsame
    rw [lastOf_stages] at hdisk
    have hlater' := hsame.safe.again job groups hpending' (hdisk.symm ▸ hlists')
      (hdisk.symm ▸ hlater)
    rw [hsame.state] at hlater'
    exact congrArg₂ (· ++ ·) hsame.findings hlater'

/-! ## Watches -/

section
variable (job : LintJob)

/-- What is to be delivered after the first result: **for each group that is seen the findings of a
run without a cache**, on the disk after the group, and for the other groups nothing. -/
inductive Delivers : (Bytes → Prop) → Disk → IgnoreMemo → List (List Change) → List Findings → Prop
  | done {watched : Bytes → Prop} {d : Disk} {ignore : IgnoreMemo} : Delivers watched d ignore [] []
  | seen {watched : Bytes → Prop} {d : Disk} {ignore : IgnoreMemo} {group : List Change}
      {groups : List (List Change)} {f : Findings} {later : List Findings} :
      Sees watched d (stages d group) →
      (Lint.run (group.foldl Change.apply d) job false ⟨ignore, none⟩).answer = .ok f →
      Delivers (WatchedAfter watched d (stages d group)) (group.foldl Change.apply d)
        (Lint.run (group.foldl Change.apply d) job false ⟨ignore, none⟩).memory.ignore groups
        later →
      Delivers watched d ignore (group :: groups) (f :: later)
  | unseen {watched : Bytes → Prop} {d : Disk} {ignore : IgnoreMemo} {group : List Change}
      {groups : List (List Change)} {later : List Findings} :
      ¬Sees watched d (stages d group) →
      Delivers (WatchedAfter watched d (stages d group)) (group.foldl Change.apply d) ignore groups
        later →
      Delivers watched d ignore (group :: groups) later

end

/-- Every group is seen. -/
def SeesAll : (Bytes → Prop) → Disk → List (List Change) → Prop
  | _, _, [] => True
  | watched, d, group :: groups =>
    Sees watched d (stages d group) ∧
      SeesAll (WatchedAfter watched d (stages d group)) (group.foldl Change.apply d) groups

instance SeesAll.decidable : ∀ (watched : List Bytes) (d : Disk) (groups : List (List Change)),
    Decidable (SeesAll (· ∈ watched) d groups)
  | _, _, [] => inferInstanceAs (Decidable True)
  | watched, d, group :: groups =>
    have := decidable (watchedThrough watched d (stages d group))
      (group.foldl Change.apply d) groups
    decidable_of_iff (Sees (· ∈ watched) d (stages d group) ∧
        SeesAll (· ∈ watchedThrough watched d (stages d group)) (group.foldl Change.apply d) groups)
      (by rw [SeesAll, watchedAfter_eq])

/-- The disk after the first `k` groups of changes. -/
def diskAfter (disk : Disk) (groups : List (List Change)) (k : Nat) : Disk :=
  (groups.take k).flatten.foldl Change.apply disk

/-- The ignore file that is remembered after `k` runs without a cache, on the disk before the
changes and after each group. -/
def ignoreAfter (job : LintJob) (disk : Disk) (ignore : IgnoreMemo) (groups : List (List Change)) :
    Nat → IgnoreMemo
  | 0 => ignore
  | k + 1 =>
    (Lint.run (diskAfter disk groups k) job false
      ⟨ignoreAfter job disk ignore groups k, none⟩).memory.ignore

/-- What a run without a cache answers after the first `k` groups. -/
def uncachedAnswer (job : LintJob) (disk : Disk) (ignore : IgnoreMemo)
    (groups : List (List Change)) (k : Nat) : Except LintError Findings :=
  (Lint.run (diskAfter disk groups k) job false
    ⟨ignoreAfter job disk ignore groups k, none⟩).answer

theorem diskAfter_cons (disk : Disk) (group : List Change) (groups : List (List Change)) (k : Nat) :
    diskAfter disk (group :: groups) (k + 1) =
      diskAfter (group.foldl Change.apply disk) groups k := by
  simp [diskAfter, List.foldl_append]

theorem ignoreAfter_cons (job : LintJob) (disk : Disk) (ignore : IgnoreMemo) (group : List Change)
    (groups : List (List Change)) (k : Nat) :
    ignoreAfter job disk ignore (group :: groups) (k + 1) =
      ignoreAfter job (group.foldl Change.apply disk)
        (Lint.run disk job false ⟨ignore, none⟩).memory.ignore groups k := by
  induction k with
  | zero => rfl
  | succ k ih => rw [ignoreAfter, ih, diskAfter_cons, ← ignoreAfter]

/-- If every group is seen, the result after `k` groups is that of a run without a cache. -/
theorem Delivers.answers {job : LintJob} : ∀ {groups : List (List Change)} {watched : Bytes → Prop}
    {d : Disk} {ignore : IgnoreMemo} {f : Findings} {later : List Findings},
    Delivers job watched d (Lint.run d job false ⟨ignore, none⟩).memory.ignore groups later →
      (Lint.run d job false ⟨ignore, none⟩).answer = .ok f → SeesAll watched d groups →
      later.length = groups.length ∧ ∀ k ≤ groups.length, ∃ r, (f :: later)[k]? = some r ∧
        uncachedAnswer job d ignore groups k = .ok r
  | [], _, _, _, f, _, .done, hf, _ => by
    refine ⟨rfl, fun k hk => ?_⟩
    obtain rfl := Nat.le_zero.1 hk
    exact ⟨f, rfl, hf⟩
  | group :: groups, _, _, _, f, _, h, hf, hall => by
    cases h with
    | unseen hunseen => exact absurd hall.1 hunseen
    | seen _ hanswer hlater =>
      obtain ⟨hlength, hanswers⟩ := hlater.answers hanswer hall.2
      refine ⟨congrArg Nat.succ hlength, fun k hk => ?_⟩
      cases k with
      | zero => exact ⟨f, rfl, hf⟩
      | succ k =>
        obtain ⟨r, hr, hsame⟩ := hanswers k (Nat.le_of_succ_le_succ hk)
        refine ⟨r, hr, ?_⟩
        rw [uncachedAnswer, diskAfter_cons, ignoreAfter_cons]
        exact hsame

theorem exists_run_ok {d : Disk} {job : LintJob} (hrule : job.rule.isSome = true)
    (memory : LintMemory) (h : ∀ p ∈ job.patterns, Glob.paths d p ≠ none) :
    ∃ f, (Lint.run d job false memory).answer = .ok f := by
  obtain ⟨rule, patterns, o⟩ := job
  obtain ⟨rule, rfl⟩ := Option.isSome_iff_exists.1 hrule
  exact ⟨_, (run_of_scan rule o memory.cache (Scan.run_wellFormed d memory.ignore h)).1⟩

theorem run_memory_uncached (d : Disk) (job : LintJob) (ignore : IgnoreMemo) :
    (Lint.run d job false ⟨ignore, none⟩).memory.cache = none := by
  obtain ⟨-, _, _, -, hmemory, -⟩ := (trusted_empty d 0).run job ignore
  rw [hmemory]

/-- **Without a cache, a watch delivers what is to be delivered.** -/
theorem delivers_again (job : LintJob) (hrule : job.rule.isSome = true) :
    ∀ (groups : List (List Change)) {s : State}, s.pending = false → s.memory.cache = none →
      (∀ k < groups.length, ∀ p ∈ job.patterns,
        Glob.paths (diskAfter s.disk groups (k + 1)) p ≠ none) →
      Delivers job (· ∈ s.watched) s.disk s.memory.ignore groups (again job s groups)
  | [], _, _, _, _ => .done
  | group :: groups, s, hpending, hcache, hpatterns => by
    obtain ⟨hdisk, hpending', hwatched, hseen, hunseen⟩ :=
      run_round job hpending (stages s.disk group)
    have hs : s.memory = ⟨s.memory.ignore, none⟩ := by rw [← hcache]
    rw [lastOf_stages] at hdisk hseen
    have hlater := delivers_again job hrule groups hpending'
    simp only [hwatched, hdisk, ← diskAfter_cons s.disk group] at hlater
    have hrest := fun k hk => hpatterns (k + 1) (Nat.succ_lt_succ hk)
    by_cases h : Sees (· ∈ s.watched) s.disk (stages s.disk group)
    · obtain ⟨hfindings, hmemory⟩ := hseen h
      obtain ⟨f, hf⟩ : ∃ f, (Lint.run (group.foldl Change.apply s.disk) job false s.memory).answer =
          .ok f := by
        have hnow := hpatterns 0 (Nat.succ_pos _)
        rw [diskAfter_cons] at hnow
        exact exists_run_ok hrule s.memory hnow
      rw [again, hfindings, hf]
      rw [hs] at hf hmemory
      rw [hmemory] at hlater
      exact .seen h hf (hlater (run_memory_uncached ..) hrest)
    · obtain ⟨hfindings, hmemory⟩ := hunseen h
      rw [again, hfindings]
      rw [hmemory] at hlater
      exact .unseen h (hlater hcache hrest)

/-- The cache that a watch starts with. -/
def startCache (memory : LintMemory) : Cache := memory.cache.getD (.empty 0)

/-- The cache that a watch starts with can be trusted if it fits the disk. -/
theorem trusted_start {d : Disk} {c : Cache} (h : c.Fits d) :
    Trusted (fun place s => (place, s) ∈ c.stampsOn d ++ d.stamps) d c where
  files _ _ := fun ⟨_, hn, hs⟩ => List.mem_append_right _ (Disk.mem_stamps hn hs)
  entries _ hx := List.mem_append_left _ (List.mem_map_of_mem hx)
  fits := h

/-- A run that is cancelled at its start fails, unless it has nothing to load. -/
theorem run_cancelled (d : Disk) (job : LintJob) (memory : LintMemory) :
    ((Lint.run d job true memory).answer = .error .cancelled ∧
        ∃ scan ∈ (Scan.run d memory.ignore job.patterns).1, scan.files ≠ []) ∨
      Lint.run d job true memory = Lint.run d job false memory := by
  unfold Lint.run
  split
  · exact .inr rfl
  · split
    · exact .inr rfl
    · rename_i scan _ hscan
      cases hfiles : scan.files with
      | nil => exact .inr (by simp)
      | cons file files => exact .inl ⟨by simp, scan, by rw [hscan]; rfl, by simp [hfiles]⟩

/-- A first run that finds something is a run that is not cancelled. -/
theorem first_eq {disk : Disk} {job : LintJob} {cancelled : Bool} {memory : LintMemory}
    {f : Findings} {s : State} {log : List Log.Entry}
    (h : first disk job cancelled memory = (.ok (some f), s, log)) :
    (Lint.run disk job false (startMemory memory)).answer = .ok f ∧
      s = { start disk job memory with
        memory := (Lint.run disk job false (startMemory memory)).memory } := by
  unfold first at h
  split at h
  · cases h
  · have hrun : Lint.run disk job cancelled (start disk job memory).memory =
        Lint.run disk job false (startMemory memory) := by
      cases cancelled with
      | false => rfl
      | true =>
        refine (run_cancelled disk job (startMemory memory)).resolve_left fun hcancelled => ?_
        have hanswer : (Lint.run disk job true (start disk job memory).memory).answer =
          .error .cancelled := hcancelled.1
        simp [hanswer] at h
    simp only [hrun] at h
    cases hanswer : (Lint.run disk job false (startMemory memory)).answer with
    | error e =>
      simp only [hanswer] at h
      split at h <;> cases h
    | ok f' =>
      simp only [hanswer, Prod.mk.injEq, Except.ok.injEq, Option.some.injEq] at h
      exact ⟨congrArg _ h.1, h.2.1.symm⟩

/-- **The first run of a watch** finds what a run without a cache finds, and leaves a watch of the
directories where the patterns start. -/
theorem first_spec {seen : List Bytes → Nat × Int → Prop} {disk : Disk} {job : LintJob}
    {cancelled : Bool} {memory : LintMemory} {f : Findings} {s : State} {log : List Log.Entry}
    (h : first disk job cancelled memory = (.ok (some f), s, log))
    (htrusted : Trusted seen disk (startCache memory)) :
    (Lint.run disk job false ⟨memory.ignore, none⟩).answer = .ok f ∧
      s.uncached.memory = (Lint.run disk job false ⟨memory.ignore, none⟩).memory ∧
      s.disk = disk ∧ s.pending = false ∧ (· ∈ s.watched) = WatchedAtFirst disk job.patterns ∧
      Safe seen s := by
  obtain ⟨hanswer, ignore', c', hmemory, hmemory', htrusted'⟩ := htrusted.run job memory.ignore
  obtain ⟨hf, rfl⟩ := first_eq h
  have hstart : startMemory memory = ⟨memory.ignore, some (startCache memory)⟩ := rfl
  have hwatched : (· ∈ Tally.distinct (directories disk job.patterns)) =
      WatchedAtFirst disk job.patterns := by
    funext found
    rw [Tally.mem_distinct, mem_directories]
  rw [hstart] at hf ⊢
  refine ⟨hanswer.symm.trans hf, ?_, rfl, rfl, hwatched, c', ?_, htrusted'⟩
  · simp only [State.uncached, hmemory, hmemory']
  · rw [hmemory]

theorem exists_first {disk : Disk} (job : LintJob) (memory : LintMemory)
    (hrule : job.rule.isSome = true) (hpatterns : ∀ p ∈ job.patterns, Glob.paths disk p ≠ none) :
    ∃ f s log, first disk job false memory = (.ok (some f), s, log) := by
  obtain ⟨f, hf⟩ := exists_run_ok hrule (startMemory memory) hpatterns
  have hnone : job.rule.isNone = false := by simpa using hrule
  simp only [first, hnone, Bool.false_eq_true, if_false, start, hf]
  exact ⟨_, _, _, rfl⟩

/-- A watch that is cancelled at its start delivers its first findings at most, and these if it has
nothing to load. -/
theorem results_cancelled {disk : Disk} {job : LintJob} {memory : LintMemory} {f : Findings}
    {s : State} {log : List Log.Entry} (hrule : job.rule.isSome = true)
    (h : first disk job false memory = (.ok (some f), s, log)) (groups : List (List Change)) :
    (results disk job true true memory groups = .ok [] ∧
        ∃ scan ∈ (Scan.run disk memory.ignore job.patterns).1, scan.files ≠ []) ∨
      results disk job true true memory groups = .ok [f] := by
  have hnone : job.rule.isNone = false := by simpa using hrule
  rcases run_cancelled disk job (startMemory memory) with ⟨hcancelled, hfiles⟩ | hsame
  · refine .inl ⟨?_, hfiles⟩
    simp [results, first, start, hnone, hcancelled]
  · have hfirst : first disk job true memory = (.ok (some f), s, log) := by
      rw [← h]
      simp only [first, hnone, Bool.false_eq_true, if_false, start, hsame]
      cases hanswer : (Lint.run disk job false (startMemory memory)).answer with
      | ok f' => rfl
      | error e => simp [first, hnone, start, hanswer] at h
    right
    simp [results, hnone, hfirst]

/-- **A watch never delivers stale findings.** It delivers a result before the changes and one after
each group that is seen, and ends without an error; each result is what a run without a cache
returns on the disk as it then stands, with the same remembered ignore file. A watch that is
cancelled at its start delivers at most the first result. -/
theorem results_uncached (disk : Disk) (rule : Rule) (patterns : List Bytes) (o : CheckOptions)
    (memory : LintMemory) (groups : List (List Change))
    (hpatterns : ∀ k ≤ groups.length, ∀ p ∈ patterns,
      Glob.paths (diskAfter disk groups k) p ≠ none)
    (hcache : (startCache memory).Fits disk)
    (hfresh : Fresh ((startCache memory).stampsOn disk ++ disk.stamps) disk groups.flatten) :
    ∃ first later,
      results disk ⟨some rule, patterns, o⟩ true false memory groups = .ok (first :: later) ∧
      uncachedAnswer ⟨some rule, patterns, o⟩ disk memory.ignore groups 0 = .ok first ∧
      Delivers ⟨some rule, patterns, o⟩ (WatchedAtFirst disk patterns) disk
        (ignoreAfter ⟨some rule, patterns, o⟩ disk memory.ignore groups 1) groups later ∧
      (SeesAll (WatchedAtFirst disk patterns) disk groups →
        (first :: later).length = groups.length + 1 ∧
          ∀ k ≤ groups.length, ∃ f, (first :: later)[k]? = some f ∧
            uncachedAnswer ⟨some rule, patterns, o⟩ disk memory.ignore groups k = .ok f) ∧
      (results disk ⟨some rule, patterns, o⟩ true true memory groups = .ok [] ∨
        results disk ⟨some rule, patterns, o⟩ true true memory groups = .ok [first]) := by
  have hatFirst : ∀ p ∈ patterns, Glob.paths disk p ≠ none := hpatterns 0 (Nat.zero_le _)
  obtain ⟨f, s, log, hfirst⟩ := exists_first ⟨some rule, patterns, o⟩ memory rfl hatFirst
  obtain ⟨hf, hmemory, rfl, hpending, hwatched, hsafe⟩ := first_spec hfirst (trusted_start hcache)
  have hagain := hsafe.again ⟨some rule, patterns, o⟩ groups hpending
    ⟨fun _ _ => id, fun _ _ ⟨_, hn, hs⟩ => List.mem_append_right _ (Disk.mem_stamps hn hs)⟩ hfresh
  have hdelivers := delivers_again ⟨some rule, patterns, o⟩ rfl groups (s := s.uncached)
    hpending rfl fun k hk => hpatterns (k + 1) hk
  rw [← hagain, hmemory] at hdelivers
  have hwatched' : (· ∈ s.uncached.watched) = WatchedAtFirst s.disk patterns := hwatched
  rw [hwatched'] at hdelivers
  refine ⟨f, _, ?_, hf, hdelivers, fun hall => ?_,
    (results_cancelled rfl hfirst groups).imp_left And.left⟩
  · simp [results, hfirst]
  · obtain ⟨hlength, hanswers⟩ := hdelivers.answers hf hall
    exact ⟨congrArg Nat.succ hlength, hanswers⟩

/-- A style sheet is replaced and removed, a directory comes with one, and the first one comes back
with its first content. -/
def comeAndGo : List (List Change) :=
  [[.put "a.css" (.file "color:tan" 2)],
    [.remove "a.css", .put "lib" (.directory [("b.css", .file "color:red" 1)])],
    [.put "lib/../a.css" (.file "color:red" 3)]]

/-- A cache that has the style sheet as it is at first, and one that is gone. -/
def earlierRun : LintMemory :=
  ⟨none, some ⟨2, [("a.css", ⟨9, 1, Stylesheet.declarations "a.css" "color:red"⟩),
    ("lib/b.css", ⟨4, 1, []⟩)]⟩⟩

/-- The four results of a watch that starts with the cache of an earlier run. -/
theorem results_uncached_comeAndGo :
    (startCache earlierRun).Fits (Session.oneFile "color:red" 1) ∧
      Fresh ((startCache earlierRun).stampsOn (Session.oneFile "color:red" 1) ++
        (Session.oneFile "color:red" 1).stamps) (Session.oneFile "color:red" 1) comeAndGo.flatten ∧
      ∀ rule, ∃ first later,
        results (Session.oneFile "color:red" 1) ⟨some rule, ["**/*.css"], {}⟩ true false earlierRun
          comeAndGo = .ok (first :: later) ∧
        (first :: later).length = 4 ∧
        ∀ k ≤ 3, ∃ f, (first :: later)[k]? = some f ∧
          uncachedAnswer ⟨some rule, ["**/*.css"], {}⟩ (Session.oneFile "color:red" 1) none
            comeAndGo k = .ok f := by
  have hpatterns : ∀ k ≤ comeAndGo.length, ∀ p ∈ [Bytes.ofString "**/*.css"],
      Glob.paths (diskAfter (Session.oneFile "color:red" 1) comeAndGo k) p ≠ none := by
    decide +kernel
  have hcache : (startCache earlierRun).Fits (Session.oneFile "color:red" 1) := by
    unfold Cache.Fits
    decide +kernel
  have hfresh : Fresh ((startCache earlierRun).stampsOn (Session.oneFile "color:red" 1) ++
      (Session.oneFile "color:red" 1).stamps)
      (Session.oneFile "color:red" 1) comeAndGo.flatten := by
    decide +kernel
  have hseen : SeesAll (WatchedAtFirst (Session.oneFile "color:red" 1) ["**/*.css"])
      (Session.oneFile "color:red" 1) comeAndGo := by
    rw [watchedAtFirst_eq]
    decide +kernel
  refine ⟨hcache, hfresh, fun rule => ?_⟩
  obtain ⟨first, later, hresults, -, -, hall, -⟩ :=
    results_uncached _ rule ["**/*.css"] {} earlierRun comeAndGo hpatterns hcache hfresh
  exact ⟨first, later, hresults, hall hseen⟩

/-- **A change that is not seen has no result**: when a file comes that is no style sheet, the watch
delivers its first result and no other one. -/
theorem results_unseen_readme :
    (∀ k ≤ 1, ∀ p ∈ [Bytes.ofString "**/*.css"], Glob.paths
        (diskAfter ⟨.directory [], "/"⟩ [[.put "README.md" (.file "x" 1)]] k) p ≠ none) ∧
      Fresh (Disk.stamps ⟨.directory [], "/"⟩) ⟨.directory [], "/"⟩
        [.put "README.md" (.file "x" 1)] ∧
      ∀ rule cancelled, ∃ first,
        results ⟨.directory [], "/"⟩ ⟨some rule, ["**/*.css"], {}⟩ true cancelled {}
          [[.put "README.md" (.file "x" 1)]] = .ok [first] := by
  refine ⟨by decide +kernel, by decide +kernel, fun rule cancelled => ?_⟩
  have hpatterns : ∀ p ∈ [Bytes.ofString "**/*.css"], Glob.paths ⟨.directory [], "/"⟩ p ≠ none := by
    decide +kernel
  obtain ⟨f, s, log, hfirst⟩ := exists_first ⟨some rule, ["**/*.css"], {}⟩ {} rfl hpatterns
  obtain ⟨-, -, hdisk, hpending, hwatched, -⟩ := first_spec hfirst (trusted_empty _ 0)
  refine ⟨f, ?_⟩
  cases cancelled with
  | true =>
    have hnothing : ¬∃ scan ∈ (Scan.run ⟨.directory [], "/"⟩ none ["**/*.css"]).1,
        scan.files ≠ [] := by
      decide +kernel
    exact (results_cancelled rfl hfirst _).resolve_left fun h => hnothing h.2
  | false =>
    have hunseen : ¬Sees (· ∈ s.watched) s.disk
        (stages s.disk [.put "README.md" (.file "x" 1)]) := by
      have hwatched' : (· ∈ s.watched) = WatchedAtFirst ⟨.directory [], "/"⟩ ["**/*.css"] :=
        hwatched
      rw [hwatched', hdisk, watchedAtFirst_eq]
      decide +kernel
    obtain ⟨-, -, -, -, hround⟩ := run_round ⟨some rule, ["**/*.css"], {}⟩ hpending
      (stages s.disk [.put "README.md" (.file "x" 1)])
    simp [results, hfirst, again, (hround hunseen).1]

end Watch

end VarLint
