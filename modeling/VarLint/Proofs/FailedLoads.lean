import VarLint.Proofs.LoadHistory

/-!
# A failed load does no harm

A load fails where nothing is found, or where something is found that cannot be read. Between the
two a stale entry of the path is dropped.

* `LoadStep.keeps_others`: a load that fails leaves the entries of other paths as they are and where
  they are, and adds none.
* `MadeBy log c`: every entry of the cache holds what a load of the log has read at its path. Loads
  keep it so (`MadeBy.loads`), and what a load answers has been read by it or by one before
  (`MadeBy.answer`).
* `failed_load_harmless`: so **after a failed load** no load answers with anything else than what a
  load that succeeded has read at that path.
-/

namespace VarLint

/-- A load that fails adds no entry, and leaves those of other paths in order. -/
theorem LoadStep.keeps_others {c c' : Cache} {d : Disk} {path : Bytes} {e : LoadError}
    (h : LoadStep c d path (.error e) c') :
    c'.entries.Sublist c.entries ∧ c'.others path = c.others path := by
  cases h with
  | notFound => exact ⟨List.Sublist.refl _, rfl⟩
  | unreadable => exact ⟨List.filter_sublist, c.others_erase path⟩

theorem Cache.find?_erase (c : Cache) (path : Bytes) : (c.erase path).find? path = none := by
  refine List.lookup_eq_none_iff.2 fun x hx => ?_
  have hne : x.1 ≠ path := by simpa using (List.mem_filter.1 hx).2
  simpa using hne.symm

/-! ## Where entries come from -/

/-- The load has read the declarations at its path: it succeeded without the cache, and the disk had
them. -/
def LoadEvent.HasRead (x : LoadEvent) (ds : List Declaration) : Prop :=
  x.answer = .ok ⟨ds, false⟩ ∧ x.disk.declarationsAt x.file = some ds

/-- Every entry holds what a load of the log has read at its path. -/
def MadeBy (log : List LoadEvent) (c : Cache) : Prop :=
  ∀ x ∈ c.entries, ∃ y ∈ log, y.file = x.1 ∧ y.HasRead x.2.declarations

namespace MadeBy

variable {log : List LoadEvent} {c c' : Cache}

theorem mono {log' : List LoadEvent} (h : MadeBy log c) (hsub : ∀ y ∈ log, y ∈ log') :
    MadeBy log' c := by
  intro x hx
  obtain ⟨y, hy, hmade⟩ := h x hx
  exact ⟨y, hsub y hy, hmade⟩

theorem of_subset (h : MadeBy log c) (hsub : ∀ x ∈ c'.entries, x ∈ c.entries) : MadeBy log c' :=
  fun x hx => h x (hsub x hx)

theorem hasRead_of_parse {x : LoadEvent} {ds : List Declaration}
    (hanswer : x.answer = .ok ⟨ds, false⟩) (hparse : Loaded.parse x.disk x.file = .ok ds) :
    x.HasRead ds :=
  ⟨hanswer, by rw [← parse_eq, hparse]; rfl⟩

/-- **What a load answers** was read by the load itself or by one before it. -/
theorem answer (h : MadeBy log c) {x : LoadEvent} {loaded : Loaded} (hx : x.answer = .ok loaded)
    (hstep : LoadStep c x.disk x.file x.answer c') :
    ∃ y ∈ log ++ [x], y.file = x.file ∧ y.HasRead loaded.declarations := by
  rw [hx] at hstep
  cases hstep with
  | hit _ hfind =>
    obtain ⟨y, hy, hmade⟩ := h _ (Cache.mem_of_find? hfind)
    exact ⟨y, List.mem_append_left _ hy, hmade⟩
  | miss _ _ hparse => exact ⟨x, by simp, rfl, hasRead_of_parse hx hparse⟩

/-- **A load** leaves entries that were there before, and one of what it has read. -/
theorem step (h : MadeBy log c) {x : LoadEvent} (hstep : LoadStep c x.disk x.file x.answer c') :
    MadeBy (log ++ [x]) c' := by
  have hlog : MadeBy (log ++ [x]) c := h.mono fun y hy => List.mem_append_left _ hy
  generalize hanswer : x.answer = answer at hstep
  cases hstep with
  | notFound => exact hlog
  | hit _ hfind =>
    refine hlog.of_subset fun z hz => ?_
    rcases Cache.mem_insert hz with rfl | hz
    · exact Cache.mem_of_find? hfind
    · exact hz
  | unreadable => exact hlog.of_subset fun z hz => Cache.mem_others hz
  | miss _ _ hparse =>
    intro z hz
    rcases Cache.mem_insert hz with rfl | hz
    · exact ⟨x, by simp, rfl, hasRead_of_parse hanswer hparse⟩
    · exact hlog z hz

theorem loads {xs : List LoadEvent} (hloads : Loads c xs c') : ∀ {log : List LoadEvent},
    MadeBy log c → MadeBy (log ++ xs) c' := by
  induction hloads with
  | nil => simp
  | cons hstep _ ih =>
    intro log h
    simpa using ih (h.step hstep)

end MadeBy

/-! ## Sessions -/

namespace Session

/-- **A failed load does no harm** to the cache of a session, on whatever disk it fails. It adds no
entry, and the entries of other paths stay as they are and in their order. If the path is not found,
the cache stays as it is; if something is found, which then does not fit an entry of the path, no
entry of the path is left. And whatever is changed, loaded and linted later, a load that succeeds
answers with what some load of the same file, before the failed one or behind it and at the latest
this one, has read. -/
theorem failed_load_harmless (disk : Disk) (ignore : IgnoreMemo) (size : Int) (steps : List Step)
    {c c' : Cache} (hc : ((State.start disk ignore size).after steps).memory.cache = some c)
    (d : Disk) (path : Bytes) {e : LoadError}
    (hfail : Loaded.throughCache d c path = (.error e, c')) :
    c'.entries.Sublist c.entries ∧ c'.others path = c.others path ∧
      (∀ cause, d.stat path = .error cause → c' = c) ∧
      (∀ s, d.stat path = .ok s →
        (∀ entry, c.find? path = some entry → ¬entry.Fits s) ∧ c'.find? path = none) ∧
      ∀ (d' : Disk) (ignore' : IgnoreMemo) (later : List Step) (earlier rest : List LoadEvent)
        (x : LoadEvent) (loaded : Loaded),
        history ⟨d', ignore', some c'⟩ later = earlier ++ x :: rest → x.answer = .ok loaded →
        ∃ y ∈ history (State.start disk ignore size) steps ++ earlier ++ [x],
          y.file = x.file ∧ y.HasRead loaded.declarations := by
  have hstep := throughCache_step d c path
  rw [hfail] at hstep
  obtain ⟨hsub, hothers⟩ := hstep.keeps_others
  refine ⟨hsub, hothers, ?_, ?_, ?_⟩
  · intro cause hcause
    cases hstep with
    | notFound => rfl
    | unreadable hstat => cases hcause.symm.trans hstat
  · intro s hs
    cases hstep with
    | notFound hstat => cases hs.symm.trans hstat
    | unreadable hstat hnone =>
      cases hs.symm.trans hstat
      exact ⟨hnone, c.find?_erase path⟩
  · intro d' ignore' later earlier rest x loaded hhistory hx
    obtain ⟨_, hsession, hloads⟩ := loads_start disk ignore size steps
    cases hc.symm.trans hsession
    have hempty : MadeBy [] (Cache.empty size) := by
      intro z hz
      cases hz
    -- the failed load leaves entries that the loads before it have made
    have hmade := (MadeBy.loads hloads hempty).of_subset hsub.subset
    obtain ⟨_, -, hlater⟩ := loads_history later
      (show (State.mk d' ⟨ignore', some c'⟩).memory.cache = some c' from rfl)
    rw [hhistory] at hlater
    obtain ⟨c₁, hearlier, hlater⟩ := hlater.exists_of_append
    obtain ⟨_, hxstep, -⟩ := hlater.exists_of_cons
    simpa using (MadeBy.loads hearlier hmade).answer hx hxstep

/-- The two style sheets, one of which cannot be read any more. -/
def oneUnreadable : Disk :=
  ⟨.directory [("a.css", .unreadable 2), ("b.css", .file "color:tan" 1)], "/"⟩

/-- The load of the unreadable one fails and drops its stale entry. The other one stays, and a later
load of it answers with what its first load has read. -/
theorem failed_load_harmless_oneUnreadable :
    ∃ c c' x loaded,
      ((State.start twoFiles none 4).after [.load "a.css", .load "b.css"]).memory.cache = some c ∧
      Loaded.throughCache oneUnreadable c "a.css" =
          (.error (.read "a.css" .inputOutput), c') ∧
      c.size = 2 ∧ c'.size = 1 ∧ c'.others "a.css" = c.others "a.css" ∧
      history ⟨oneUnreadable, none, some c'⟩ [.load "b.css"] = [x] ∧ x.answer = .ok loaded ∧
      loaded.cached = true ∧
      ∃ y ∈ history (State.start twoFiles none 4) [.load "a.css", .load "b.css"] ++ [] ++ [x],
        y.file = x.file ∧ y.HasRead loaded.declarations := by
  refine ⟨_, _, _, _, rfl, rfl, rfl, rfl, ?_, rfl, rfl, rfl, ?_⟩
  · exact (failed_load_harmless twoFiles none 4 [.load "a.css", .load "b.css"] rfl oneUnreadable
      "a.css"
      rfl).2.1
  · exact (failed_load_harmless twoFiles none 4 [.load "a.css", .load "b.css"] rfl oneUnreadable
      "a.css"
      rfl).2.2.2.2 oneUnreadable none [.load "b.css"] [] [] _ _ rfl rfl

end Session

end VarLint
