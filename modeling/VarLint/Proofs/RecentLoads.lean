import Mathlib.Data.Finset.Card
import VarLint.Proofs.LoadHistory

/-!
# What was loaded recently is loaded from the cache

* `Cache.Tidy n c`: the cache is for `n` files, holds at most `n`, and none of them twice. Every
  load keeps it so (`Tidy.step`).
* `Recent c path stamp newer`: the cache has an entry of the path with the stamp, and what has been
  used later are entries of `newer`. They have distinct paths, so they are no more than `newer` has
  (`Recent.step_other`).
* `Recent.step_self`: a load of a recent path whose file has the stamp is a hit, which makes it the
  most recent one.
* `history_hits_again`: **a file that was loaded, and has not changed, is in the cache** as long as
  fewer other files than the cache can hold have been loaded since.
-/

namespace VarLint

namespace Cache

/-- The cache is for `n` files, holds at most so many, and none of them twice. -/
structure Tidy (n : Nat) (c : Cache) : Prop where
  capacity : c.capacity = n
  length_le : c.entries.length ≤ n
  nodup : (c.entries.map Prod.fst).Nodup

namespace Tidy

variable {n : Nat} {c : Cache}

theorem nodup_others (h : Tidy n c) (path : Bytes) : ((c.others path).map Prod.fst).Nodup :=
  h.nodup.sublist (List.filter_sublist.map _)

theorem erase (h : Tidy n c) (path : Bytes) : Tidy n (c.erase path) where
  capacity := h.capacity
  length_le := (List.length_filter_le _ _).trans h.length_le
  nodup := h.nodup_others path

theorem nodup_cons_others (h : Tidy n c) (path : Bytes) (e : CacheEntry) :
    (((path, e) :: c.others path).map Prod.fst).Nodup := by
  refine List.nodup_cons.2 ⟨fun hm => ?_, h.nodup_others path⟩
  obtain ⟨x, hx, hpath⟩ := List.mem_map.1 hm
  simp [others, hpath] at hx

theorem insert (h : Tidy n c) (path : Bytes) (e : CacheEntry) : Tidy n (c.insert path e) where
  capacity := h.capacity
  length_le := (List.length_take_le _ _).trans_eq h.capacity
  nodup := (h.nodup_cons_others path e).sublist ((List.take_sublist _ _).map _)

/-- **Every load keeps a cache tidy.** -/
theorem step (h : Tidy n c) {d : Disk} {path : Bytes} {answer : Except LoadError Loaded}
    {c' : Cache} (hstep : LoadStep c d path answer c') : Tidy n c' := by
  cases hstep with
  | notFound => exact h
  | hit => exact h.insert _ _
  | unreadable => exact h.erase _
  | miss => exact h.insert _ _

theorem loads (h : Tidy n c) {xs : List LoadEvent} {c' : Cache} (hloads : Loads c xs c') :
    Tidy n c' := by
  induction hloads with
  | nil => exact h
  | cons hstep _ ih => exact ih (h.step hstep)

end Tidy

end Cache

theorem tidy_empty {size : Int} {n : Nat} (hn : (n : Int) = if size ≤ 0 then 1024 else size) :
    (Cache.empty size).Tidy n := by
  refine ⟨?_, Nat.zero_le _, List.nodup_nil⟩
  unfold Cache.empty Cache.defaultCapacity
  split at hn <;> rename_i hsize <;> simp only [hsize, if_true, if_false] <;> omega

/-! ## Recent entries -/

/-- The cache has an entry of the path with the stamp, and the entries that were used later are of
other paths among `newer`. -/
def Recent (c : Cache) (path : Bytes) (stamp : Nat × Int) (newer : Finset Bytes) : Prop :=
  ∃ front e back, c.entries = front ++ (path, e) :: back ∧ (e.size, e.modified) = stamp ∧
    ∀ x ∈ front, x.1 ≠ path ∧ x.1 ∈ newer

namespace Recent

variable {n : Nat} {c c' : Cache} {path : Bytes} {stamp : Nat × Int} {newer newer' : Finset Bytes}

theorem mono (h : Recent c path stamp newer) (hsub : newer ⊆ newer') :
    Recent c path stamp newer' := by
  obtain ⟨front, e, back, hc, hs, hfront⟩ := h
  exact ⟨front, e, back, hc, hs, fun x hx => ⟨(hfront x hx).1, hsub (hfront x hx).2⟩⟩

theorem insert_self (hcap : 0 < c.capacity) (e : CacheEntry) :
    Recent (c.insert path e) path (e.size, e.modified) newer := by
  obtain ⟨k, hk⟩ := Nat.exists_eq_add_of_lt hcap
  refine ⟨[], e, (c.others path).take k, ?_, rfl, by simp⟩
  simp [Cache.insert, hk]

theorem find? (h : Recent c path stamp newer) :
    ∃ e, c.find? path = some e ∧ (e.size, e.modified) = stamp := by
  obtain ⟨front, e, back, hc, hs, hfront⟩ := h
  refine ⟨e, List.lookup_eq_some_iff.2 ⟨front, back, hc, fun x hx => ?_⟩, hs⟩
  have := (hfront x hx).1
  simpa using Ne.symm this

/-- **Entries of distinct paths** among `newer` are no more than `newer` has. -/
theorem length_le_card {front : List (Bytes × CacheEntry)} (hnodup : (front.map Prod.fst).Nodup)
    (hnewer : ∀ x ∈ front, x.1 ∈ newer) : front.length ≤ newer.card := by
  rw [← List.length_map (f := Prod.fst), ← List.toFinset_card_of_nodup hnodup]
  refine Finset.card_le_card fun p hp => ?_
  obtain ⟨x, hx, rfl⟩ := List.mem_map.1 (List.mem_toFinset.1 hp)
  exact hnewer x hx

/-- The other entries stay in order when the entry of a path is dropped. -/
theorem others_eq {q : Bytes} (hq : q ≠ path) {e : CacheEntry}
    {front back : List (Bytes × CacheEntry)} (hc : c.entries = front ++ (path, e) :: back) :
    c.others q = front.filter (fun x => !(x.1 == q)) ++
      (path, e) :: back.filter (fun x => !(x.1 == q)) := by
  simp [Cache.others, hc, hq.symm]

theorem erase_other (h : Recent c path stamp newer) {q : Bytes} (hq : q ≠ path) :
    Recent (c.erase q) path stamp newer := by
  obtain ⟨front, e, back, hc, hs, hfront⟩ := h
  exact ⟨_, e, _, others_eq hq hc, hs, fun x hx => hfront x (List.mem_filter.1 hx).1⟩

/-- **One more entry before it** drops the path only from a cache that is full of newer ones. -/
theorem insert_other (ht : c.Tidy n) (h : Recent c path stamp newer) {q : Bytes} (hq : q ≠ path)
    (hcard : (insert q newer).card < n) (e' : CacheEntry) :
    Recent (c.insert q e') path stamp (insert q newer) := by
  obtain ⟨front, e, back, hc, hs, hfront⟩ := h
  have hothers := others_eq hq hc
  have hnodup := ht.nodup_cons_others q e'
  rw [hothers, ← List.cons_append] at hnodup
  set front' := (q, e') :: front.filter fun x => !(x.1 == q) with hfront'
  have hnewer : ∀ x ∈ front', x.1 ≠ path ∧ x.1 ∈ insert q newer := by
    intro x hx
    rcases List.mem_cons.1 hx with rfl | hx
    · exact ⟨hq, Finset.mem_insert_self _ _⟩
    · obtain ⟨hne, hmem⟩ := hfront x (List.mem_filter.1 hx).1
      exact ⟨hne, Finset.mem_insert_of_mem hmem⟩
  -- the entries before the path are of distinct newer paths, so there is room for it behind them
  have hlen : front'.length < c.capacity := by
    rw [ht.capacity]
    refine Nat.lt_of_le_of_lt (length_le_card ?_ fun x hx => (hnewer x hx).2) hcard
    exact hnodup.sublist ((List.sublist_append_left _ _).map _)
  obtain ⟨k, hk⟩ := Nat.exists_eq_add_of_lt hlen
  refine ⟨front', e, (back.filter fun x => !(x.1 == q)).take k, ?_, hs, hnewer⟩
  rw [Cache.insert, hothers, ← List.cons_append, ← hfront', List.take_append,
    List.take_of_length_le (Nat.le_of_lt hlen), hk, Nat.add_assoc, Nat.add_sub_cancel_left]
  rfl

/-! ## Loads -/

/-- **A load of another path** lets at most one more path become newer. -/
theorem step_other (ht : c.Tidy n) (h : Recent c path stamp newer) {d : Disk} {q : Bytes}
    (hq : q ≠ path) (hcard : (insert q newer).card < n) {answer : Except LoadError Loaded}
    (hstep : LoadStep c d q answer c') : Recent c' path stamp (insert q newer) := by
  cases hstep with
  | notFound => exact h.mono (Finset.subset_insert _ _)
  | hit => exact h.insert_other ht hq hcard _
  | unreadable => exact (h.erase_other hq).mono (Finset.subset_insert _ _)
  | miss => exact h.insert_other ht hq hcard _

/-- **A load of the path** whose file has the stamp is a hit, and makes the path recent again. -/
theorem step_self (hcap : 0 < c.capacity) (h : Recent c path stamp newer) {d : Disk}
    (hstamp : d.stampAt path = some stamp) {answer : Except LoadError Loaded}
    (hstep : LoadStep c d path answer c') :
    (∃ ds, answer = .ok ⟨ds, true⟩) ∧ Recent c' path stamp newer := by
  obtain ⟨e, hfind, hs⟩ := h.find?
  have hfits : ∀ {s : Stat}, d.stat path = .ok s → e.Fits s := by
    intro s hstat
    rw [Disk.stampAt_of_stat hstat, ← hs, Option.some.injEq, Prod.mk.injEq] at hstamp
    exact ⟨hstamp.1.symm, hstamp.2.symm⟩
  cases hstep with
  | notFound hstat => simp [Disk.stampAt, hstat, Except.toOption] at hstamp
  | hit hstat hfound hfits =>
    cases hfind.symm.trans hfound
    exact ⟨⟨_, rfl⟩, hs ▸ insert_self hcap e⟩
  | unreadable hstat hnone => exact absurd (hfits hstat) (hnone e hfind)
  | miss hstat hnone => exact absurd (hfits hstat) (hnone e hfind)

end Recent

/-- **A load that succeeds** makes its path recent, with the stamp that the file has. -/
theorem recent_of_load {c c' : Cache} (hcap : 0 < c.capacity) {d : Disk} {path : Bytes}
    {loaded : Loaded} (hstep : LoadStep c d path (.ok loaded) c') :
    ∃ stamp, d.stampAt path = some stamp ∧ Recent c' path stamp ∅ := by
  cases hstep with
  | hit hstat hfind hfits =>
    refine ⟨_, Disk.stampAt_of_stat hstat, ?_⟩
    rw [← hfits.1, ← hfits.2]
    exact Recent.insert_self hcap _
  | miss hstat => exact ⟨_, Disk.stampAt_of_stat hstat, Recent.insert_self hcap _⟩

/-- The paths among loads that are not the given one. -/
def otherFiles (path : Bytes) (xs : List LoadEvent) : Finset Bytes :=
  ((xs.map LoadEvent.file).filter fun q => !(q == path)).toFinset

/-- **A path stays recent** during loads, if its file keeps the stamp and the cache has room for
every other path. -/
theorem Recent.loads {n : Nat} (hn : 0 < n) {path : Bytes} {stamp : Nat × Int} {c c' : Cache}
    {xs : List LoadEvent} (hloads : Loads c xs c') : ∀ {newer : Finset Bytes}, c.Tidy n →
      Recent c path stamp newer →
      (∀ x ∈ xs, x.file = path → x.disk.stampAt path = some stamp) →
      (newer ∪ otherFiles path xs).card < n →
      Recent c' path stamp (newer ∪ otherFiles path xs) := by
  induction hloads with
  | nil => exact fun _ h _ _ => h.mono Finset.subset_union_left
  | @cons c m c' x xs hstep _ ih =>
    intro newer ht h hstamps hcard
    have hlater : ∀ y ∈ xs, y.file = path → y.disk.stampAt path = some stamp :=
      fun y hy => hstamps y (List.mem_cons_of_mem _ hy)
    by_cases hx : x.file = path
    · -- a hit, which makes the path the most recent one
      have hothers : otherFiles path (x :: xs) = otherFiles path xs := by simp [otherFiles, hx]
      rw [hothers] at hcard ⊢
      have hstamp := hstamps x List.mem_cons_self hx
      rw [hx] at hstep
      exact ih (ht.step hstep) (h.step_self (ht.capacity ▸ hn) hstamp hstep).2 hlater hcard
    · have hothers : newer ∪ otherFiles path (x :: xs) =
          insert x.file newer ∪ otherFiles path xs := by
        simp [otherFiles, hx]
      rw [hothers] at hcard ⊢
      have hone : (insert x.file newer).card < n :=
        Nat.lt_of_le_of_lt (Finset.card_le_card Finset.subset_union_left) hcard
      exact ih (ht.step hstep) (h.step_other ht hx hone hstep) hlater hcard

/-! ## Sessions -/

namespace Session

/-- **The cache of a session** holds at most as many files as it is for, none of them twice. And a
load of a file that was loaded before is a hit, if the file has the same size and time of
modification at every load of it since, and fewer other files than the cache is for were loaded
since: whatever these loads were, in which order and how often, and whether they succeeded or
failed. -/
theorem history_hits_again (disk : Disk) (ignore : IgnoreMemo) (size : Int) (steps : List Step)
    (n : Nat) (hn : (n : Int) = if size ≤ 0 then 1024 else size) :
    (∃ c, ((State.start disk ignore size).after steps).memory.cache = some c ∧ c.size ≤ n ∧
        (c.entries.map Prod.fst).Nodup) ∧
      ∀ (earlier since later : List LoadEvent) (x y : LoadEvent) (loaded : Loaded),
        history (State.start disk ignore size) steps = earlier ++ x :: since ++ y :: later →
        x.file = y.file → x.answer = .ok loaded →
        (∀ z ∈ since ++ [y], z.file = y.file → z.disk.stampAt y.file = x.disk.stampAt y.file) →
        (otherFiles y.file since).card < n →
        ∃ ds, y.answer = .ok ⟨ds, true⟩ := by
  have hpos : 0 < n := by split at hn <;> omega
  have htidy := tidy_empty hn
  obtain ⟨c, hc, hloads⟩ := loads_start disk ignore size steps
  have hend := htidy.loads hloads
  refine ⟨⟨c, hc, hend.length_le, hend.nodup⟩, ?_⟩
  intro earlier since later x y loaded hhistory hfile hx hstamps hcard
  rw [hhistory, List.append_assoc] at hloads
  obtain ⟨c₁, hearlier, hloads⟩ := hloads.exists_of_append
  obtain ⟨c₂, hsince, hloads⟩ := hloads.exists_of_append
  obtain ⟨c₃, hxstep, hsince⟩ := hsince.exists_of_cons
  obtain ⟨_, hystep, -⟩ := hloads.exists_of_cons
  have ht₁ := htidy.loads hearlier
  have ht₂ := ht₁.step hxstep
  rw [hx, hfile] at hxstep
  obtain ⟨stamp, hstamp, hrecent⟩ := recent_of_load (ht₁.capacity ▸ hpos) hxstep
  have hsame : ∀ z ∈ since ++ [y], z.file = y.file → z.disk.stampAt y.file = some stamp :=
    fun z hz hfile => (hstamps z hz hfile).trans hstamp
  have hstill := hrecent.loads hpos hsince ht₂
    (fun z hz => hsame z (List.mem_append_left _ hz)) (by simpa using hcard)
  have hcap : 0 < c₂.capacity := (ht₂.loads hsince).capacity ▸ hpos
  exact (hstill.step_self hcap (hsame y (by simp) rfl) hystep).1

/-- Between two loads of one style sheet another one is loaded, changed, loaded, removed and asked
for in vain. -/
def staleAndGone : List Step :=
  [.load "a.css", .load "b.css", .put "b.css" (.file "margin:0" 2), .load "b.css", .remove "b.css",
    .load "b.css", .load "a.css"]

/-- With room for two files the first one is still there. -/
theorem history_hits_again_staleAndGone :
    ∃ x since y, history (State.start twoFiles none 2) staleAndGone = x :: since ++ [y] ∧
      x.file = Bytes.ofString "a.css" ∧ since.length = 3 ∧
      (otherFiles x.file since).card = 1 ∧ y.file = x.file ∧ ∃ ds, y.answer = .ok ⟨ds, true⟩ := by
  refine ⟨_, [_, _, _], _, rfl, rfl, rfl, by decide +kernel, rfl, ?_⟩
  exact (history_hits_again twoFiles none 2 staleAndGone 2 (by decide)).2 [] [_, _, _] [] _ _ _ rfl
    rfl rfl (by decide +kernel) (by decide +kernel)

end Session

end VarLint
