import VarLint.Proofs.Tallies
import VarLint.Watch

/-!
# What a watch sees

A watch keeps a list of directories and hears of events in them. Both are computed; here they are
described, by what the disk was and what it is.

* `mem_directories`: the directories that are watched at first are those `Below` the directories
  where the patterns start.
* `mem_eventsThrough`: the events of a round belong to the entries of watched directories that
  differ from one disk to the next.
* `handle_spec`, `run_events`: what one event does to a watch, and what all events of a round do.
* `run_round`: **a round delivers one result if it is seen, and none otherwise**. It is seen if a
  style sheet of a watched directory is not what it was, or if an entry has come there and is a
  directory in the end (`Sees`). Directories that have come are watched from then on
  (`WatchedAfter`).
-/

namespace VarLint

/-- The entry with the given name in the directory at a path. -/
def Disk.entry? (d : Disk) (path name : Bytes) : Option Node := (d.entries path).lookup name

/-! ## Style sheets -/

theorem Path.extension_append (stem : Bytes) {extension : Bytes} (hslash : slash ∉ extension)
    (hpoint : (0x2E : UInt8) ∉ extension) :
    Path.extension (stem ++ 0x2E :: extension) = 0x2E :: extension := by
  have hbehind : (stem ++ 0x2E :: extension).reverse.takeWhile (fun b => b != slash) =
      extension.reverse ++ 0x2E :: stem.reverse.takeWhile (fun b => b != slash) := by
    rw [List.reverse_append, List.reverse_cons, List.append_assoc, List.singleton_append,
      List.takeWhile_append_of_pos, List.takeWhile_cons_of_pos (by decide)]
    intro b hb
    rw [bne_iff_ne]
    rintro rfl
    exact hslash (List.mem_reverse.1 hb)
  have hfirst : (extension.reverse ++ 0x2E :: stem.reverse.takeWhile (fun b => b != slash)).idxOf?
      0x2E = some extension.reverse.length := by
    refine List.idxOf?_eq_some_iff.2 ⟨by simp, by simp, fun j hj he => hpoint ?_⟩
    rw [List.getElem_append_left hj] at he
    exact List.mem_reverse.1 (he ▸ List.getElem_mem hj)
  simp only [Path.extension, hbehind, hfirst]
  rw [List.take_length_add_append, List.take_succ_cons, List.take_zero, List.reverse_append,
    List.reverse_reverse, List.reverse_singleton, List.singleton_append]

/-- A path has no extension, or ends in a point and what is behind it. -/
theorem Path.extension_cases (path : Bytes) : Path.extension path = [] ∨
    ∃ stem extension : Bytes, path = stem ++ 0x2E :: extension ∧ slash ∉ extension ∧
      (0x2E : UInt8) ∉ extension := by
  by_cases hmem : (0x2E : UInt8) ∈ path.reverse.takeWhile (fun b => b != slash)
  · obtain ⟨behind, before, hsplit, hpoint⟩ := List.eq_append_cons_of_mem hmem
    refine .inr ⟨(before ++ path.reverse.dropWhile fun b => b != slash).reverse, behind.reverse, ?_,
      ?_, by simpa using hpoint⟩
    · have hrev : behind ++ 0x2E :: before ++ path.reverse.dropWhile (fun b => b != slash) =
          path.reverse := by
        rw [← hsplit, List.takeWhile_append_dropWhile]
      rw [← List.reverse_inj, ← hrev]
      simp [hrev]
    · intro h
      have hin : slash ∈ path.reverse.takeWhile fun b => b != slash := by
        rw [hsplit]
        exact List.mem_append_left _ (List.mem_reverse.1 h)
      simpa using List.all_eq_true.1 (List.all_takeWhile ..) _ hin
  · left
    simp [Path.extension, List.idxOf?_eq_none_iff.2 hmem]

/-- The last name of a path ends in one of the extensions of style sheets, in any letter case. -/
def HasSheetExtension (path : Bytes) : Prop :=
  ∃ stem extension : Bytes, path = stem ++ 0x2E :: extension ∧ Path.slash ∉ extension ∧
    (0x2E : UInt8) ∉ extension ∧
    Bytes.toLower (0x2E :: extension) ∈ [(".css" : Bytes), ".scss", ".less"]

theorem isStylesheet_iff (path : Bytes) : isStylesheet path = true ↔ HasSheetExtension path := by
  have hlist : isStylesheet path = true ↔
      (Path.extension path).toLower ∈ [(".css" : Bytes), ".scss", ".less"] := by
    simp [isStylesheet, or_assoc]
  rw [hlist]
  constructor
  · intro h
    rcases Path.extension_cases path with hnone | ⟨stem, extension, rfl, hslash, hpoint⟩
    · rw [hnone] at h
      exact absurd h (by decide)
    · rw [Path.extension_append stem hslash hpoint] at h
      exact ⟨stem, extension, rfl, hslash, hpoint, h⟩
  · rintro ⟨stem, extension, rfl, hslash, hpoint, h⟩
    rwa [Path.extension_append stem hslash hpoint]

namespace Watch

/-! ## Watched directories -/

/-- A directory at a path or below it, with no hidden or third-party directory on the way down. -/
inductive Below : Bytes → Node → Bytes → Prop
  | here {path : Bytes} {cs : List (Bytes × Node)} {size : Nat} {modified : Int} :
      Below path (.directory cs size modified) path
  | down {path name found : Bytes} {child : Node} {cs : List (Bytes × Node)} {size : Nat}
      {modified : Int} : (name, child) ∈ cs → name ≠ "node_modules" → name.head? ≠ some 0x2E →
      Below (Path.join path name) child found → Below path (.directory cs size modified) found

theorem isLeftOut_eq_false_iff {name : Bytes} :
    isLeftOut name = false ↔ name ≠ "node_modules" ∧ name.head? ≠ some 0x2E := by
  simp [isLeftOut]

mutual

theorem below_of_mem_directoriesIn {found : Bytes} : ∀ {path : Bytes} {n : Node},
    found ∈ directoriesIn path n → Below path n found
  | path, .directory cs size modified, h => by
    rw [directoriesIn, List.mem_cons] at h
    rcases h with rfl | h
    · exact .here
    · obtain ⟨name, child, hmem, hthird, hhidden, hbelow⟩ := exists_of_mem_directoriesAmong h
      exact .down hmem hthird hhidden hbelow
  | _, .file .., h => by simp [directoriesIn] at h
  | _, .unreadable .., h => by simp [directoriesIn] at h

theorem exists_of_mem_directoriesAmong {found : Bytes} : ∀ {path : Bytes}
    {cs : List (Bytes × Node)}, found ∈ directoriesAmong path cs →
      ∃ name child, (name, child) ∈ cs ∧ name ≠ "node_modules" ∧ name.head? ≠ some 0x2E ∧
        Below (Path.join path name) child found
  | _, [], h => by simp [directoriesAmong] at h
  | path, (name, child) :: cs, h => by
    rw [directoriesAmong, List.mem_append] at h
    rcases h with h | h
    · split at h
      · simp at h
      · rename_i hname
        obtain ⟨hthird, hhidden⟩ := isLeftOut_eq_false_iff.1 (by simpa using hname)
        exact ⟨name, child, by simp, hthird, hhidden, below_of_mem_directoriesIn h⟩
    · obtain ⟨name', child', hmem, hrest⟩ := exists_of_mem_directoriesAmong h
      exact ⟨name', child', List.mem_cons_of_mem _ hmem, hrest⟩

end

theorem mem_directoriesAmong {path name found : Bytes} {child : Node}
    (hname : isLeftOut name = false) (h : found ∈ directoriesIn (Path.join path name) child) :
    ∀ {cs : List (Bytes × Node)}, (name, child) ∈ cs → found ∈ directoriesAmong path cs
  | (other, c) :: cs, hmem => by
    rw [directoriesAmong, List.mem_append]
    rcases List.mem_cons.1 hmem with heq | hmem
    · cases heq
      exact .inl (by simpa [hname] using h)
    · exact .inr (mem_directoriesAmong hname h hmem)

/-- **The directories in a tree** are those below its path. -/
theorem mem_directoriesIn {path found : Bytes} {n : Node} :
    found ∈ directoriesIn path n ↔ Below path n found := by
  refine ⟨below_of_mem_directoriesIn, fun h => ?_⟩
  induction h with
  | here => simp [directoriesIn]
  | down hmem hthird hhidden _ ih =>
    rw [directoriesIn]
    exact List.mem_cons_of_mem _
      (mem_directoriesAmong (isLeftOut_eq_false_iff.2 ⟨hthird, hhidden⟩) ih hmem)

theorem mem_directoriesFrom {d : Disk} {path found : Bytes} :
    found ∈ directoriesFrom d path ↔ ∃ n, d.find path = .ok n ∧ Below path n found := by
  unfold directoriesFrom
  cases d.find path with
  | ok n => simp [mem_directoriesIn]
  | error e => simp

theorem isEmpty_directoriesFrom (d : Disk) (path : Bytes) :
    (directoriesFrom d path).isEmpty = !d.isDirectoryAt path := by
  unfold directoriesFrom Disk.isDirectoryAt
  cases d.find path with
  | ok n => cases n <;> simp [directoriesIn, Node.isDirectory]
  | error e => rfl

/-- The directory where a pattern starts: the one before the first of its names that is not plain,
or the one of the file that stands there. -/
inductive StartsIn (d : Disk) (pattern : Bytes) : Bytes → Prop
  | directory : d.isDirectoryAt (Glob.split pattern).1 = true →
      StartsIn d pattern (Glob.split pattern).1
  | file : Scan.isFile d (Glob.split pattern).1 = true →
      StartsIn d pattern (directoryOf (Glob.split pattern).1)

theorem mem_roots {d : Disk} {patterns : List Bytes} {root : Bytes} :
    root ∈ roots d patterns ↔ ∃ pattern ∈ patterns, StartsIn d pattern root := by
  simp only [roots, Tally.mem_distinct, List.mem_filterMap]
  refine exists_congr fun pattern => and_congr_right fun _ => ?_
  cases hfind : d.find (Glob.split pattern).1 with
  | error e =>
    have hstat : d.stat (Glob.split pattern).1 = .error e := by simp [Disk.stat, hfind, Except.map]
    simp only [hstat, reduceCtorEq, false_iff]
    rintro (h | h)
    · simp [Disk.isDirectoryAt, hfind] at h
    · simp [Scan.isFile, hstat] at h
  | ok n =>
    obtain ⟨st, hstat, hdir⟩ : ∃ st, d.stat (Glob.split pattern).1 = .ok st ∧
        st.isDirectory = n.isDirectory := by
      cases n <;> exact ⟨_, by rw [Disk.stat, hfind]; rfl, rfl⟩
    simp only [hstat, hdir, Option.some.injEq]
    cases hn : n.isDirectory with
    | true =>
      refine ⟨fun h => h ▸ .directory (by simp [Disk.isDirectoryAt, hfind, hn]), ?_⟩
      rintro (h | h)
      · rfl
      · simp [Scan.isFile, hstat, hdir, hn] at h
    | false =>
      refine ⟨fun h => h ▸ .file (by simp [Scan.isFile, hstat, hdir, hn]), ?_⟩
      rintro (h | h)
      · simp [Disk.isDirectoryAt, hfind, hn] at h
      · rfl

/-- The directories that are watched at first. -/
def WatchedAtFirst (d : Disk) (patterns : List Bytes) (found : Bytes) : Prop :=
  ∃ pattern ∈ patterns, ∃ root, StartsIn d pattern root ∧
    ∃ n, d.find root = .ok n ∧ Below root n found

theorem mem_directories {d : Disk} {patterns : List Bytes} {found : Bytes} :
    found ∈ directories d patterns ↔ WatchedAtFirst d patterns found := by
  simp only [directories, List.mem_flatMap, mem_roots, mem_directoriesFrom, WatchedAtFirst]
  exact ⟨fun ⟨root, ⟨pattern, hpattern, hroot⟩, hfound⟩ => ⟨pattern, hpattern, root, hroot, hfound⟩,
    fun ⟨pattern, hpattern, root, hroot, hfound⟩ => ⟨root, ⟨pattern, hpattern, hroot⟩, hfound⟩⟩

theorem watchedAtFirst_eq (d : Disk) (patterns : List Bytes) :
    WatchedAtFirst d patterns = (· ∈ directories d patterns) := by
  funext found
  exact propext mem_directories.symm

/-! ## Events -/

/-- Whether an entry is there and a directory. -/
def IsDirectory (entry : Option Node) : Prop := ∃ n ∈ entry, n.isDirectory = true

/-- An entry is not what it was. A directory that stays one counts as the same. -/
def Differs (old new : Option Node) : Prop := old ≠ new ∧ ¬(IsDirectory old ∧ IsDirectory new)

/-- An entry has come: there was none, or one of the other kind. -/
def Comes (old new : Option Node) : Prop :=
  new ≠ none ∧ (old = none ∨ ¬(IsDirectory old ↔ IsDirectory new))

theorem isRewritten_iff {old new : Node} (hold : old.isDirectory = false)
    (hnew : new.isDirectory = false) : isRewritten old new = true ↔ old ≠ new := by
  cases old <;> cases new <;>
    simp_all [isRewritten, Node.isDirectory, imp_iff_not_or]

theorem isDirectory_some {n : Node} : IsDirectory (some n) ↔ n.isDirectory = true := by
  simp [IsDirectory]

theorem not_isDirectory_none : ¬IsDirectory none := by simp [IsDirectory]

/-- **Something shows of an entry** if it is not what it was. -/
theorem eventsAt_ne_nil_iff (path : Bytes) {old new : Option Node} :
    eventsAt path old new ≠ [] ↔ Differs old new := by
  unfold Differs
  match old, new with
  | none, none => simp [eventsAt]
  | none, some n => simp [eventsAt, not_isDirectory_none]
  | some m, none => simp [eventsAt, not_isDirectory_none]
  | some m, some n =>
    rw [eventsAt, isDirectory_some, isDirectory_some]
    cases hm : m.isDirectory <;> cases hn : n.isDirectory
    · simp [← isRewritten_iff hm hn]
    · have : m ≠ n := fun h => by simp [h, hn] at hm
      simpa using this
    · have : m ≠ n := fun h => by simp [h, hn] at hm
      simpa using this
    · simp

/-- **A creation shows** if an entry has come. -/
theorem created_mem_eventsAt_iff (path : Bytes) {old new : Option Node} :
    ⟨.created, path⟩ ∈ eventsAt path old new ↔ Comes old new := by
  unfold Comes
  match old, new with
  | none, none => simp [eventsAt]
  | none, some n => simp [eventsAt]
  | some m, none => simp [eventsAt]
  | some m, some n =>
    rw [eventsAt, isDirectory_some, isDirectory_some]
    cases m.isDirectory <;> cases n.isDirectory <;> simp

theorem path_of_mem_eventsAt {path : Bytes} {old new : Option Node} {e : Event}
    (h : e ∈ eventsAt path old new) : e.path = path := by
  unfold eventsAt at h
  split at h
  · cases h
  · cases List.mem_singleton.1 h
    rfl
  · cases List.mem_singleton.1 h
    rfl
  · split at h
    · cases h
    · split at h
      · simp only [List.mem_cons, List.not_mem_nil, or_false] at h
        rcases h with rfl | rfl <;> rfl
      · split at h
        · cases List.mem_singleton.1 h
          rfl
        · cases h

theorem mem_eventsIn {a b : Disk} {directory : Bytes} {e : Event} :
    e ∈ eventsIn a b directory ↔ ∃ name,
      e ∈ eventsAt (Path.join directory name) (a.entry? directory name)
        (b.entry? directory name) := by
  simp only [eventsIn, List.mem_flatMap, Tally.mem_distinct]
  refine ⟨fun ⟨name, _, h⟩ => ⟨name, h⟩, fun ⟨name, h⟩ => ⟨name, ?_, h⟩⟩
  -- nothing shows of a name that neither disk has
  by_contra hnone
  have hlookup : a.entry? directory name = none ∧ b.entry? directory name = none := by
    simp only [List.map_append, List.mem_append, List.mem_map, not_or, not_exists, not_and] at hnone
    constructor <;> refine List.lookup_eq_none_iff.2 fun x hx => ?_
    · simpa using Ne.symm (hnone.1 x hx)
    · simpa using Ne.symm (hnone.2 x hx)
  rw [hlookup.1, hlookup.2] at h
  cases h

/-- The disk in the end, when it was `d` and became the given ones. -/
def lastOf (d : Disk) (disks : List Disk) : Disk := disks.foldl (fun _ next => next) d

/-- The disk, which was `d` and becomes the given ones, goes from `a` to `b` while a directory is
watched. It has been one of the watched ones and a directory all the time. -/
def Passes (watched : Bytes → Prop) (d : Disk) (disks : List Disk) (directory : Bytes)
    (a b : Disk) : Prop :=
  watched directory ∧ ∃ front back, disks = front ++ b :: back ∧ lastOf d front = a ∧
    ∀ x ∈ front, x.isDirectoryAt directory = true

section
variable {watched : Bytes → Prop} {d next a b : Disk} {rest : List Disk} {directory : Bytes}

theorem not_passes_nil : ¬Passes watched d [] directory a b := by
  rintro ⟨_, front, back, h, -⟩
  simp at h

theorem passes_cons_iff : Passes watched d (next :: rest) directory a b ↔
    (watched directory ∧ d = a ∧ next = b) ∨
      Passes (fun x => watched x ∧ next.isDirectoryAt x = true) next rest directory a b := by
  constructor
  · rintro ⟨hw, front, back, hsplit, hlast, hstays⟩
    cases front with
    | nil =>
      cases hsplit
      exact .inl ⟨hw, hlast, rfl⟩
    | cons x front =>
      cases hsplit
      exact .inr ⟨⟨hw, hstays _ (by simp)⟩, front, back, rfl, hlast,
        fun y hy => hstays y (List.mem_cons_of_mem _ hy)⟩
  · rintro (⟨hw, rfl, rfl⟩ | ⟨⟨hw, hdir⟩, front, back, rfl, hlast, hstays⟩)
    · exact ⟨hw, [], rest, rfl, rfl, by simp⟩
    · exact ⟨hw, next :: front, back, rfl, hlast, by simpa using ⟨hdir, hstays⟩⟩

end

/-- **The events of a round** are those of the watched directories, from one disk to the next. -/
theorem mem_eventsThrough {e : Event} : ∀ (disks : List Disk) (watched : List Bytes) (d : Disk),
    e ∈ eventsThrough watched d disks ↔ ∃ directory a b,
      Passes (· ∈ watched) d disks directory a b ∧ e ∈ eventsIn a b directory
  | [], watched, d => by simp [eventsThrough, not_passes_nil]
  | next :: rest, watched, d => by
    have hfilter : (· ∈ watched.filter next.isDirectoryAt) =
        fun x => x ∈ watched ∧ next.isDirectoryAt x = true := by
      funext x
      simp
    simp only [eventsThrough, List.mem_append, List.mem_flatMap, passes_cons_iff,
      mem_eventsThrough rest, hfilter]
    constructor
    · rintro (⟨directory, hw, he⟩ | ⟨directory, a, b, hpass, he⟩)
      · exact ⟨directory, d, next, .inl ⟨hw, rfl, rfl⟩, he⟩
      · exact ⟨directory, a, b, .inr hpass, he⟩
    · rintro ⟨directory, a, b, ⟨hw, rfl, rfl⟩ | hpass, he⟩
      · exact .inl ⟨directory, hw, he⟩
      · exact .inr ⟨directory, a, b, hpass, he⟩

/-! ## Steps -/

/-- An event makes a run due: a directory has come, or it is about a style sheet. -/
def Event.Matters (d : Disk) (e : Event) : Prop :=
  (e.kind = .created ∧ d.isDirectoryAt e.path = true) ∨ isStylesheet e.path = true

/-- **What one event does.** -/
theorem handle_spec (s : State) (e : Event) :
    (s.handle e).findings = [] ∧ (s.handle e).state.disk = s.disk ∧
      (s.handle e).state.memory = s.memory ∧
      ((s.handle e).state.pending = true ↔ s.pending = true ∨ e.Matters s.disk) ∧
      ∀ x, x ∈ (s.handle e).state.watched ↔
        x ∈ s.watched ∨ (e.kind = .created ∧ x ∈ directoriesFrom s.disk e.path) := by
  have hfound := isEmpty_directoriesFrom s.disk e.path
  have hempty : s.disk.isDirectoryAt e.path = false → directoriesFrom s.disk e.path = [] := by
    intro h
    simpa [h] using hfound
  unfold State.handle Event.Matters
  by_cases hkind : e.kind = .created
  · cases hdir : s.disk.isDirectoryAt e.path with
    | true => simp [hkind, hdir, hfound, Tally.mem_distinct]
    | false =>
      cases hsheet : isStylesheet e.path <;> simp [hkind, hempty hdir]
  · cases hsheet : isStylesheet e.path <;> simp [hkind]

theorem run_append (job : LintJob) : ∀ (front back : List Signal) (s : State),
    run job s (front ++ back) =
      ⟨(run job (run job s front).state back).state,
        (run job s front).findings ++ (run job (run job s front).state back).findings,
        (run job s front).log ++ (run job (run job s front).state back).log⟩
  | [], _, _ => rfl
  | signal :: front, back, s => by
    simp only [List.cons_append, run, run_append job front back, List.append_assoc]

/-- **What the events of a round do.** -/
theorem run_events (job : LintJob) : ∀ (events : List Event) (s : State),
    (run job s (events.map .event)).findings = [] ∧
      (run job s (events.map .event)).state.disk = s.disk ∧
      (run job s (events.map .event)).state.memory = s.memory ∧
      ((run job s (events.map .event)).state.pending = true ↔
        s.pending = true ∨ ∃ e ∈ events, e.Matters s.disk) ∧
      ∀ x, x ∈ (run job s (events.map .event)).state.watched ↔
        x ∈ s.watched ∨ ∃ e ∈ events, e.kind = .created ∧ x ∈ directoriesFrom s.disk e.path
  | [], s => by simp [run]
  | e :: events, s => by
    obtain ⟨hnone, hdisk, hmemory, hpending, hwatched⟩ := handle_spec s e
    obtain ⟨hnone', hdisk', hmemory', hpending', hwatched'⟩ :=
      run_events job events (s.handle e).state
    simp only [List.map_cons, run, step, hnone, hnone', hdisk', hmemory', hpending', hwatched',
      hdisk, hmemory, hpending, hwatched, List.append_nil, List.mem_cons, exists_eq_or_imp,
      or_assoc, implies_true, and_self]

theorem run_changes (job : LintJob) : ∀ (disks : List Disk) (s : State),
    run job s (disks.map .change) =
      { state := { s with
          disk := lastOf s.disk disks
          watched := s.watched.filter fun x => disks.all fun d => d.isDirectoryAt x } }
  | [], s => by simp [run, lastOf]
  | d :: disks, s => by
    have hwatched : (s.watched.filter d.isDirectoryAt).filter
        (fun x => disks.all fun d' => d'.isDirectoryAt x) =
        s.watched.filter fun x => (d :: disks).all fun d' => d'.isDirectoryAt x := by
      rw [List.filter_filter]
      exact List.filter_congr fun x _ => by rw [List.all_cons, Bool.and_comm]
    simp only [List.map_cons, run, step, run_changes job disks, hwatched]
    rfl

/-! ## Rounds -/

/-- A round is seen: a style sheet of a watched directory is not what it was, or an entry has come
to one, and there is a directory in the end. -/
def Sees (watched : Bytes → Prop) (d : Disk) (disks : List Disk) : Prop :=
  ∃ directory a b name, Passes watched d disks directory a b ∧
    ((Differs (a.entry? directory name) (b.entry? directory name) ∧
        HasSheetExtension (Path.join directory name)) ∨
      (Comes (a.entry? directory name) (b.entry? directory name) ∧
        (lastOf d disks).isDirectoryAt (Path.join directory name) = true))

/-- The directories that are watched after a round: those that have been there all the time, and the
ones that have come to a watched directory, with everything below them. -/
def WatchedAfter (watched : Bytes → Prop) (d : Disk) (disks : List Disk) (found : Bytes) : Prop :=
  (watched found ∧ ∀ x ∈ disks, x.isDirectoryAt found = true) ∨
    ∃ directory a b name n, Passes watched d disks directory a b ∧
      Comes (a.entry? directory name) (b.entry? directory name) ∧
      (lastOf d disks).find (Path.join directory name) = .ok n ∧
      Below (Path.join directory name) n found

theorem exists_matters_iff {path : Bytes} {old new : Option Node} {last : Disk} :
    (∃ e ∈ eventsAt path old new, e.Matters last) ↔
      (Differs old new ∧ HasSheetExtension path) ∨
        (Comes old new ∧ last.isDirectoryAt path = true) := by
  rw [← eventsAt_ne_nil_iff path, ← created_mem_eventsAt_iff path, ← isStylesheet_iff]
  constructor
  · rintro ⟨⟨kind, path'⟩, he, hmatters⟩
    obtain rfl : path' = path := path_of_mem_eventsAt he
    rcases hmatters with ⟨rfl, hdir⟩ | hsheet
    · exact .inr ⟨he, hdir⟩
    · exact .inl ⟨List.ne_nil_of_mem he, hsheet⟩
  · rintro (⟨hne, hsheet⟩ | ⟨hcreated, hdir⟩)
    · obtain ⟨e, he⟩ := List.exists_mem_of_ne_nil _ hne
      exact ⟨e, he, .inr (path_of_mem_eventsAt he ▸ hsheet)⟩
    · exact ⟨_, hcreated, .inl ⟨rfl, hdir⟩⟩

theorem sees_iff {watched : List Bytes} {d : Disk} {disks : List Disk} :
    Sees (· ∈ watched) d disks ↔
      ∃ e ∈ eventsThrough watched d disks, e.Matters (lastOf d disks) := by
  simp only [mem_eventsThrough, mem_eventsIn, Sees, ← exists_matters_iff]
  constructor
  · rintro ⟨directory, a, b, name, hpass, e, he, hmatters⟩
    exact ⟨e, ⟨directory, a, b, hpass, name, he⟩, hmatters⟩
  · rintro ⟨e, ⟨directory, a, b, hpass, name, he⟩, hmatters⟩
    exact ⟨directory, a, b, name, hpass, e, he, hmatters⟩

/-- The list of the watched directories after a round holds those that are to be watched. -/
theorem mem_watched_iff {watched : List Bytes} {d : Disk} {disks : List Disk} {found : Bytes} :
    WatchedAfter (· ∈ watched) d disks found ↔
      found ∈ (watched.filter fun x => disks.all fun y => y.isDirectoryAt x) ∨
        ∃ e ∈ eventsThrough watched d disks,
          e.kind = .created ∧ found ∈ directoriesFrom (lastOf d disks) e.path := by
  simp only [WatchedAfter, List.mem_filter, List.all_eq_true, mem_eventsThrough, mem_eventsIn,
    mem_directoriesFrom]
  refine or_congr_right ⟨?_, ?_⟩
  · rintro ⟨directory, a, b, name, n, hpass, hcomes, hfind, hbelow⟩
    exact ⟨_, ⟨directory, a, b, hpass, name, (created_mem_eventsAt_iff _).2 hcomes⟩, rfl, n, hfind,
      hbelow⟩
  · rintro ⟨⟨kind, path⟩, ⟨directory, a, b, hpass, name, he⟩, rfl, n, hfind, hbelow⟩
    obtain rfl : path = _ := path_of_mem_eventsAt he
    exact ⟨directory, a, b, name, n, hpass, (created_mem_eventsAt_iff _).1 he, hfind, hbelow⟩

/-- The directories that are watched after a round, as a list. -/
def watchedThrough (watched : List Bytes) (d : Disk) (disks : List Disk) : List Bytes :=
  (watched.filter fun x => disks.all fun y => y.isDirectoryAt x) ++
    ((eventsThrough watched d disks).filter (·.kind = .created)).flatMap fun e =>
      directoriesFrom (lastOf d disks) e.path

theorem watchedAfter_eq (watched : List Bytes) (d : Disk) (disks : List Disk) :
    WatchedAfter (· ∈ watched) d disks = (· ∈ watchedThrough watched d disks) := by
  funext found
  simp only [mem_watched_iff, watchedThrough, List.mem_append, List.mem_flatMap, List.mem_filter,
    decide_eq_true_eq, and_assoc]

instance Event.Matters.decidable (d : Disk) (e : Event) : Decidable (e.Matters d) :=
  inferInstanceAs (Decidable (_ ∨ _))

instance Sees.decidable (watched : List Bytes) (d : Disk) (disks : List Disk) :
    Decidable (Sees (· ∈ watched) d disks) :=
  decidable_of_iff _ sees_iff.symm

/-- A round leads to a tick on the last disk, at which a run is due if the round is seen. -/
theorem exists_tick_of_round (job : LintJob) {s : State} (hpending : s.pending = false)
    (disks : List Disk) : ∃ t : State,
      (run job s (s.round disks)).state = (t.tick job).state ∧
      (run job s (s.round disks)).findings = (t.tick job).findings ∧
      t.disk = lastOf s.disk disks ∧ t.memory = s.memory ∧
      (t.pending = true ↔ Sees (· ∈ s.watched) s.disk disks) ∧
      ∀ x, x ∈ t.watched ↔ WatchedAfter (· ∈ s.watched) s.disk disks x := by
  obtain ⟨hnone, hdisk, hmemory, hdue, hwatched⟩ := run_events job
    (eventsThrough s.watched s.disk disks) (run job s (disks.map .change)).state
  refine ⟨_, ?_, ?_, hdisk.trans ?_, hmemory.trans ?_, hdue.trans ?_,
    fun x => (hwatched x).trans ?_⟩
  · simp only [State.round, run_append, run, step]
  · have hsilent : (run job s (disks.map .change)).findings = [] := by rw [run_changes]
    simp only [State.round, run_append, hsilent, hnone, run, step, List.append_nil,
      List.nil_append]
  all_goals rw [run_changes]
  · rw [sees_iff]
    simp only [hpending, Bool.false_eq_true, false_or]
  · exact mem_watched_iff.symm

theorem tick_of_pending (job : LintJob) {s : State} (h : s.pending = true) :
    (s.tick job).state =
        { s with pending := false, memory := (Lint.run s.disk job false s.memory).memory } ∧
      (s.tick job).findings = (Lint.run s.disk job false s.memory).answer.toOption.toList := by
  simp only [State.tick, h, Bool.not_true, Bool.false_eq_true, if_false]
  cases (Lint.run s.disk job false s.memory).answer <;> exact ⟨rfl, rfl⟩

theorem tick_of_not_pending (job : LintJob) {s : State} (h : s.pending = false) :
    s.tick job = { state := s } := by
  simp [State.tick, h]

/-- **A round delivers one result if it is seen, and none otherwise.** The directories that have
come are watched from then on. -/
theorem run_round (job : LintJob) {s : State} (hpending : s.pending = false) (disks : List Disk) :
    (run job s (s.round disks)).state.disk = lastOf s.disk disks ∧
      (run job s (s.round disks)).state.pending = false ∧
      (· ∈ (run job s (s.round disks)).state.watched) =
        WatchedAfter (· ∈ s.watched) s.disk disks ∧
      (Sees (· ∈ s.watched) s.disk disks →
        (run job s (s.round disks)).findings =
            (Lint.run (lastOf s.disk disks) job false s.memory).answer.toOption.toList ∧
          (run job s (s.round disks)).state.memory =
            (Lint.run (lastOf s.disk disks) job false s.memory).memory) ∧
      (¬Sees (· ∈ s.watched) s.disk disks →
        (run job s (s.round disks)).findings = [] ∧
          (run job s (s.round disks)).state.memory = s.memory) := by
  obtain ⟨t, hstate, hfindings, hdisk, hmemory, hdue, hwatched⟩ :=
    exists_tick_of_round job hpending disks
  rw [hstate, hfindings, ← hdue, ← hdisk, ← hmemory, ← funext fun x => propext (hwatched x)]
  cases hp : t.pending with
  | true =>
    obtain ⟨htick, hdelivered⟩ := tick_of_pending job hp
    rw [htick, hdelivered]
    simp
  | false =>
    rw [tick_of_not_pending job hp]
    simp [hp]

end Watch

end VarLint
