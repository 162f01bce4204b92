import Mathlib.Algebra.BigOperators.Ring.Finset
import Mathlib.Algebra.Order.BigOperators.Group.List
import Mathlib.Algebra.Order.Group.Nat
import VarLint.Tally

/-!
# What a tally counts

* `distinct_perm_dedup`: the distinct elements of a list are its elements, each once.
* `groups_perm`: grouping by a key loses and doubles nothing.
* `mem_ranked`: a tally has an entry for each value that occurs, with the number of its occurrences.
* `sum_ranked`: every occurrence is counted under one value, so the counts add up to the length of
  the list.
* `sum_take_ranked_eq_iff`: the first entries of a tally count everything exactly if there are no
  more of them. No entry is zero, so each one that is left out is missed.
-/

namespace VarLint.Tally

/-! ## Distinct elements -/

section
variable {α : Type} [BEq α] [LawfulBEq α]

theorem mem_distinct {x : α} : ∀ {l : List α}, x ∈ distinct l ↔ x ∈ l
  | [] => by simp [distinct]
  | y :: l => by
    by_cases h : x = y
    · simp [distinct, h]
    · simp [distinct, h, mem_distinct (l := l)]

theorem nodup_distinct : ∀ l : List α, (distinct l).Nodup
  | [] => .nil
  | y :: l => by
    refine List.nodup_cons.2 ⟨?_, (nodup_distinct l).filter _⟩
    simp [List.mem_filter]

/-- A value that occurs alone is left once. -/
theorem distinct_replicate_succ (n : Nat) (x : α) : distinct (List.replicate (n + 1) x) = [x] := by
  rw [List.replicate_succ, distinct, List.filter_eq_nil_iff.2]
  intro y hy
  simp [List.eq_of_mem_replicate (mem_distinct.1 hy)]

/-- **The distinct elements** are the elements, each once. -/
theorem distinct_perm_dedup [DecidableEq α] (l : List α) : (distinct l).Perm l.dedup :=
  (List.perm_ext_iff_of_nodup (nodup_distinct l) l.nodup_dedup).2 fun x => by
    rw [mem_distinct, List.mem_dedup]

/-- Every element is counted under one of the distinct ones. -/
theorem sum_count_distinct [DecidableEq α] (l : List α) :
    ((distinct l).map fun x => l.count x).sum = l.length := by
  rw [((distinct_perm_dedup l).map _).sum_eq]
  obtain rfl : ‹BEq α› = instBEqOfDecidableEq := lawful_beq_subsingleton _ _
  exact List.sum_map_count_dedup_eq_length l

/-- **Groups by a key** hold every element once, if the keys are distinct and no element's key is
missing. -/
theorem groups_perm {β : Type} (key : β → α) : ∀ {keys : List α} {l : List β}, keys.Nodup →
    (∀ x ∈ l, key x ∈ keys) → (keys.flatMap fun k => l.filter fun x => key x == k).Perm l
  | [], l, _, h => by
    cases l with
    | nil => exact .nil
    | cons x l => exact absurd (h x (by simp)) (by simp)
  | k :: keys, l, hn, h => by
    obtain ⟨hk, hn⟩ := List.nodup_cons.1 hn
    -- the other groups are those of the elements with another key
    have hothers : (keys.flatMap fun k' => l.filter fun x => key x == k') =
        keys.flatMap fun k' => (l.filter fun x => !(key x == k)).filter fun x => key x == k' := by
      refine List.flatMap_congr fun k' hk' => ?_
      rw [List.filter_filter]
      refine List.filter_congr fun x _ => ?_
      by_cases hx : key x = k'
      · have hne : k' ≠ k := fun he => hk (he ▸ hk')
        simp [hx, hne]
      · simp [hx]
    have hcover : ∀ x ∈ l.filter fun x => !(key x == k), key x ∈ keys := by
      intro x hx
      simp only [List.mem_filter, Bool.not_eq_true', beq_eq_false_iff_ne] at hx
      exact (List.mem_cons.1 (h x hx.1)).resolve_left hx.2
    rw [List.flatMap_cons, hothers]
    exact ((groups_perm key hn hcover).append_left _).trans (List.filter_append_perm _ l)

end

/-! ## Ranked values -/

variable (values : List Bytes)

theorem ranked_perm :
    (ranked values).Perm ((distinct values).map fun v => (v, values.count v)) :=
  List.mergeSort_perm _ _

/-- **The entries of a tally**: what occurs, with the number of its occurrences. -/
theorem mem_ranked {v : Bytes} {n : Nat} :
    (v, n) ∈ ranked values ↔ v ∈ values ∧ n = values.count v := by
  rw [(ranked_perm values).mem_iff, List.mem_map]
  constructor
  · rintro ⟨w, hw, he⟩
    cases he
    exact ⟨mem_distinct.1 hw, rfl⟩
  · rintro ⟨hv, rfl⟩
    exact ⟨v, mem_distinct.2 hv, rfl⟩

theorem ranked_keys_perm : ((ranked values).map Prod.fst).Perm (distinct values) := by
  simpa [Function.comp_def] using (ranked_perm values).map Prod.fst

theorem nodup_ranked_keys : ((ranked values).map Prod.fst).Nodup :=
  (ranked_keys_perm values).nodup_iff.2 (nodup_distinct values)

theorem length_ranked : (ranked values).length = values.toFinset.card := by
  rw [← List.length_map (f := Prod.fst), (ranked_keys_perm values).length_eq,
    (distinct_perm_dedup values).length_eq, List.card_toFinset]

/-- What is listed occurs. -/
theorem ranked_pos {x : Bytes × Nat} (h : x ∈ ranked values) : 0 < x.2 := by
  obtain ⟨hv, hn⟩ := (mem_ranked values).1 h
  rw [hn]
  exact List.count_pos_iff.2 hv

/-- The entries of one value count its occurrences. -/
theorem sum_ranked_of (v : Bytes) :
    (((ranked values).filter fun x => x.1 == v).map Prod.snd).sum = values.count v := by
  have hperm := ((ranked_perm values).filter fun x => x.1 == v).map Prod.snd
  rw [hperm.sum_eq, List.filter_map, List.map_map]
  have hentry : (distinct values).filter ((fun x : Bytes × Nat => x.1 == v) ∘ fun w =>
      (w, values.count w)) = (distinct values).filter (· == v) := rfl
  rw [hentry, List.filter_beq]
  by_cases hv : v ∈ values
  · simp [List.count_eq_one_of_mem (nodup_distinct values) (mem_distinct.2 hv)]
  · simp [List.count_eq_zero_of_not_mem hv]

/-- **Every occurrence is counted** under one value. -/
theorem sum_ranked : ((ranked values).map Prod.snd).sum = values.length := by
  rw [((ranked_perm values).map Prod.snd).sum_eq, List.map_map]
  exact sum_count_distinct values

/-- The first entries and the others count every occurrence. -/
theorem sum_take_add_sum_drop_ranked (k : Nat) :
    (((ranked values).take k).map Prod.snd).sum + (((ranked values).drop k).map Prod.snd).sum =
      values.length := by
  rw [← sum_ranked, List.map_take, List.map_drop, List.sum_take_add_sum_drop]

/-- **The first entries of a tally** count every occurrence exactly if there are no others. -/
theorem sum_take_ranked_eq_iff (k : Nat) :
    (((ranked values).take k).map Prod.snd).sum = values.length ↔ values.toFinset.card ≤ k := by
  have hsplit := sum_take_add_sum_drop_ranked values k
  rw [← length_ranked, ← List.drop_eq_nil_iff]
  constructor
  · intro h
    -- what is left out counts nothing, but every entry counts something
    refine List.eq_nil_iff_forall_not_mem.2 fun x hx => ?_
    have hpos := ranked_pos values (List.mem_of_mem_drop hx)
    have hle := List.le_sum_of_mem (List.mem_map_of_mem (f := Prod.snd) hx)
    omega
  · intro h
    rw [h] at hsplit
    simpa using hsplit

end VarLint.Tally
