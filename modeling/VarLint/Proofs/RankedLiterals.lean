import Mathlib.Data.List.Sort
import VarLint.Proofs.Accounting

/-!
# The ranking of literals

A ranking is in a strict order, so it is determined by what is in it, and not by how it was
collected or sorted:

* `RanksBefore`: the order of a tally, more occurrences first. No two of its entries are equal in it
  (`pairwise_ranked`), so a list in this order with the entries of a tally is the tally
  (`eq_ranked`), and counting in another order gives the same (`ranked_eq_of_perm`).
* `pairwise_inOrder`, `inOrder_eq_of_perm`: likewise for names in byte order.
* `isTop_topLiteralsOf`: the listed literals are the first ones of all (`IsTop`).
* `topLiterals_exact`: **the top literals are the true ones**, and no statistics of a run depend on
  the order of the declarations.
-/

namespace VarLint

namespace Tally

/-! ## Names in order -/

/-- Sorting elements that differ puts them strictly in order. -/
theorem pairwise_mergeSort_of_nodup {α : Type} {le : α → α → Bool} {lt : α → α → Prop}
    (trans : ∀ a b c, le a b = true → le b c = true → le a c = true)
    (total : ∀ a b, (le a b || le b a) = true) (hlt : ∀ {a b}, le a b = true ↔ lt a b ∨ a = b)
    {l : List α} (hl : l.Nodup) : (l.mergeSort le).Pairwise lt := by
  have hle := List.pairwise_mergeSort trans total l
  have hne : (l.mergeSort le).Nodup := (List.mergeSort_perm l le).nodup_iff.2 hl
  refine (List.Pairwise.and hle hne).imp ?_
  rintro a b ⟨hab, hneq⟩
  exact (hlt.1 hab).resolve_right hneq

theorem bytesLe_iff {a b : Bytes} : bytesLe a b = true ↔ a < b ∨ a = b := by
  rw [bytesLe, Bool.not_eq_true', decide_eq_false_iff_not, List.not_lt, List.le_iff_lt_or_eq]

theorem bytesLe_trans (a b c : Bytes) (hab : bytesLe a b = true) (hbc : bytesLe b c = true) :
    bytesLe a c = true := by
  rw [bytesLe_iff] at *
  rcases hab with hab | rfl
  · rcases hbc with hbc | rfl
    · exact .inl (List.lt_trans hab hbc)
    · exact .inl hab
  · exact hbc

theorem bytesLe_total (a b : Bytes) : (bytesLe a b || bytesLe b a) = true := by
  rw [Bool.or_eq_true, bytesLe_iff, bytesLe_iff]
  rcases List.le_total a b with h | h
  · exact .inl (List.le_iff_lt_or_eq.1 h)
  · exact .inr (List.le_iff_lt_or_eq.1 h)

/-- The names of a list in byte order, each once. -/
def inOrder (names : List Bytes) : List Bytes := (distinct names).mergeSort bytesLe

theorem mem_inOrder {name : Bytes} {names : List Bytes} : name ∈ inOrder names ↔ name ∈ names := by
  rw [inOrder, List.mem_mergeSort, mem_distinct]

/-- **The names rise.** -/
theorem pairwise_inOrder (names : List Bytes) : (inOrder names).Pairwise (· < ·) :=
  pairwise_mergeSort_of_nodup bytesLe_trans bytesLe_total bytesLe_iff (nodup_distinct names)

theorem inOrder_eq_of_perm {names names' : List Bytes} (h : names.Perm names') :
    inOrder names = inOrder names' :=
  (pairwise_inOrder names).eq_of_mem_iff (pairwise_inOrder names') fun name => by
    rw [mem_inOrder, mem_inOrder, h.mem_iff]

/-! ## Ranks -/

/-- The order of a ranking: `a` occurs more often than `b`, or as often and comes first in byte
order. -/
def RanksBefore (a b : Bytes × Nat) : Prop := b.2 < a.2 ∨ a.2 = b.2 ∧ a.1 < b.1

theorem RanksBefore.trans {a b c : Bytes × Nat} (hab : RanksBefore a b) (hbc : RanksBefore b c) :
    RanksBefore a c := by
  unfold RanksBefore at *
  rcases hab with hab | ⟨hab, hlt⟩
  · left
    omega
  · rcases hbc with hbc | ⟨hbc, hlt'⟩
    · left
      omega
    · exact .inr ⟨hab.trans hbc, List.lt_trans hlt hlt'⟩

instance : Std.Asymm RanksBefore where
  asymm a b hab hba := by
    unfold RanksBefore at *
    rcases hab with hab | ⟨hab, hlt⟩
    · omega
    · rcases hba with hba | ⟨-, hlt'⟩
      · omega
      · exact List.lt_asymm hlt hlt'

theorem ranksLe_iff {a b : Bytes × Nat} : ranksLe a b = true ↔ RanksBefore a b ∨ a = b := by
  unfold ranksLe RanksBefore
  by_cases h : a.2 = b.2
  · simp [h, bytesLe_iff, Prod.ext_iff]
  · have hne : a ≠ b := fun he => h (congrArg Prod.snd he)
    simp [h, hne]

theorem ranksLe_trans (a b c : Bytes × Nat) (hab : ranksLe a b = true) (hbc : ranksLe b c = true) :
    ranksLe a c = true := by
  rw [ranksLe_iff] at *
  rcases hab with hab | rfl
  · rcases hbc with hbc | rfl
    · exact .inl (hab.trans hbc)
    · exact .inl hab
  · exact hbc

theorem ranksLe_total (a b : Bytes × Nat) : (ranksLe a b || ranksLe b a) = true := by
  unfold ranksLe
  by_cases h : a.2 = b.2
  · simpa [h] using bytesLe_total a.1 b.1
  · have h' : ¬b.2 = a.2 := fun he => h he.symm
    simp only [h, h', if_false, Bool.or_eq_true, decide_eq_true_eq]
    omega

/-- **A tally is strictly in the order of ranks**: no value is in it twice. -/
theorem pairwise_ranked (values : List Bytes) : (ranked values).Pairwise RanksBefore := by
  refine pairwise_mergeSort_of_nodup ranksLe_trans ranksLe_total ranksLe_iff ?_
  refine (nodup_distinct values).map ?_
  intro v w h
  exact congrArg Prod.fst h

/-- **Only the tally is a ranking of its entries**, however they are collected and sorted. -/
theorem eq_ranked {values : List Bytes} {l : List (Bytes × Nat)} (hl : l.Pairwise RanksBefore)
    (hmem : ∀ v n, (v, n) ∈ l ↔ v ∈ values ∧ n = values.count v) : l = ranked values :=
  hl.eq_of_mem_iff (pairwise_ranked values) fun ⟨v, n⟩ => by rw [hmem, mem_ranked]

theorem ranked_eq_of_perm {values values' : List Bytes} (h : values.Perm values') :
    ranked values = ranked values' :=
  eq_ranked (pairwise_ranked values) fun v n => by
    rw [mem_ranked, h.mem_iff, h.count_eq]

/-- What is cut off a tally ranks behind what is left of it. -/
theorem ranksBefore_of_not_mem_take {values : List Bytes} {k : Nat} {a : Bytes × Nat}
    (ha : a ∈ (ranked values).take k) {v : Bytes} (hv : v ∈ values)
    (hcut : ∀ n, (v, n) ∉ (ranked values).take k) : RanksBefore a (v, values.count v) := by
  have hmem : (v, values.count v) ∈ ranked values := (mem_ranked values).2 ⟨hv, rfl⟩
  rw [← List.take_append_drop k (ranked values)] at hmem
  have hdrop := (List.mem_append.1 hmem).resolve_left (hcut _)
  have hpair := pairwise_ranked values
  rw [← List.take_append_drop k (ranked values)] at hpair
  exact (List.pairwise_append.1 hpair).2.2 a ha _ hdrop

end Tally

namespace Findings

/-! ## Literals -/

/-- The literals `top` are the first ones among the values of the declarations, at most ten: by
falling number of occurrences, and in byte order among equals. -/
structure IsTop (ds : List Declaration) (top : List LiteralCount) : Prop where
  sorted : top.Pairwise fun a b =>
    b.occurrences < a.occurrences ∨ a.occurrences = b.occurrences ∧ a.value < b.value
  length : top.length = min 10 (ds.map Declaration.value).toFinset.card
  value : ∀ l ∈ top, ∃ d ∈ ds, d.value = l.value
  occurrences : ∀ l ∈ top, l.occurrences = ds.countP fun d => d.value == l.value
  properties_sorted : ∀ l ∈ top, l.properties.Pairwise (· < ·)
  mem_properties : ∀ l ∈ top, ∀ p, p ∈ l.properties ↔ ∃ d ∈ ds, d.value = l.value ∧ d.property = p
  /-- A value that is not listed ranks behind the listed ones. -/
  others : ∀ d ∈ ds, (∀ l ∈ top, l.value ≠ d.value) → ∀ l ∈ top,
    (ds.countP fun e => e.value == d.value) < l.occurrences ∨
      l.occurrences = (ds.countP fun e => e.value == d.value) ∧ l.value < d.value

/-- The literal that an entry of the tally stands for. -/
def literalOf (ds : List Declaration) (entry : Bytes × Nat) : LiteralCount :=
  { value := entry.1
    occurrences := entry.2
    properties := Tally.inOrder ((ds.filter fun d => d.value == entry.1).map Declaration.property) }

theorem topLiteralsOf_eq (ds : List Declaration) : topLiteralsOf ds =
    ((Tally.ranked (ds.map Declaration.value)).take topLimit).map (literalOf ds) :=
  rfl

theorem count_value (ds : List Declaration) (v : Bytes) :
    (ds.map Declaration.value).count v = ds.countP fun d => d.value == v := by
  rw [List.count_eq_countP, List.countP_map]
  rfl

/-- A listed literal stands for an entry of the tally that is not cut off. -/
theorem exists_of_mem_topLiteralsOf {ds : List Declaration} {l : LiteralCount}
    (h : l ∈ topLiteralsOf ds) : ∃ v, (∃ d ∈ ds, d.value = v) ∧
      (v, ds.countP fun d => d.value == v) ∈
        (Tally.ranked (ds.map Declaration.value)).take topLimit ∧
      l = literalOf ds (v, ds.countP fun d => d.value == v) := by
  rw [topLiteralsOf_eq] at h
  obtain ⟨⟨v, n⟩, hentry, rfl⟩ := List.mem_map.1 h
  obtain ⟨hv, rfl⟩ := (Tally.mem_ranked _).1 (List.mem_of_mem_take hentry)
  rw [count_value] at hentry ⊢
  exact ⟨v, List.mem_map.1 hv, hentry, rfl⟩

/-- **The listed literals are the first ones of all.** -/
theorem isTop_topLiteralsOf (ds : List Declaration) : IsTop ds (topLiteralsOf ds) where
  sorted := by
    rw [topLiteralsOf_eq, List.pairwise_map]
    refine ((Tally.pairwise_ranked _).sublist (List.take_sublist _ _)).imp ?_
    intro a b hab
    exact hab.imp Int.ofNat_lt.2 (And.imp_left (congrArg Int.ofNat))
  length := by
    rw [topLiteralsOf_eq, List.length_map, List.length_take, Tally.length_ranked]
    rfl
  value l hl := by
    obtain ⟨v, hv, -, rfl⟩ := exists_of_mem_topLiteralsOf hl
    exact hv
  occurrences l hl := by
    obtain ⟨v, -, -, rfl⟩ := exists_of_mem_topLiteralsOf hl
    rfl
  properties_sorted l hl := by
    obtain ⟨v, -, -, rfl⟩ := exists_of_mem_topLiteralsOf hl
    exact Tally.pairwise_inOrder _
  mem_properties l hl p := by
    obtain ⟨v, -, -, rfl⟩ := exists_of_mem_topLiteralsOf hl
    simp [literalOf, Tally.mem_inOrder, and_assoc]
  others d hd hother l hl := by
    obtain ⟨v, -, hentry, rfl⟩ := exists_of_mem_topLiteralsOf hl
    -- no entry of the value is among the first ones, or it would be listed
    have hcut : ∀ n, (d.value, n) ∉ (Tally.ranked (ds.map Declaration.value)).take topLimit := by
      intro n hn
      refine hother (literalOf ds (d.value, n)) ?_ rfl
      rw [topLiteralsOf_eq]
      exact List.mem_map_of_mem hn
    have hbefore := Tally.ranksBefore_of_not_mem_take hentry (List.mem_map_of_mem hd) hcut
    rw [count_value] at hbefore
    exact hbefore.imp Int.ofNat_lt.2 (And.imp_left (congrArg Int.ofNat))

theorem literalOf_eq_of_perm {ds ds' : List Declaration} (h : ds.Perm ds') :
    literalOf ds = literalOf ds' := by
  funext entry
  rw [literalOf, literalOf, Tally.inOrder_eq_of_perm ((h.filter _).map _)]

theorem topLiteralsOf_eq_of_perm {ds ds' : List Declaration} (h : ds.Perm ds') :
    topLiteralsOf ds = topLiteralsOf ds' := by
  rw [topLiteralsOf_eq, topLiteralsOf_eq, literalOf_eq_of_perm h,
    Tally.ranked_eq_of_perm (h.map Declaration.value)]

/-! ## Statistics -/

/-- Two findings have the same statistics. -/
structure SameStatistics (f g : Findings) : Prop where
  found : f.found = g.found
  checked : f.checked = g.checked
  acceptedByVariable : f.acceptedByVariable = g.acceptedByVariable
  acceptedByException : f.acceptedByException = g.acceptedByException
  violations : f.violations = g.violations
  topLiterals : f.topLiterals = g.topLiterals
  violationsByCategory : f.violationsByCategory = g.violationsByCategory

/-- **The order of the declarations does not matter** to the statistics. -/
theorem sameStatistics_of_perm (rule : Rule) (o : CheckOptions) {ds ds' : List Declaration}
    (h : ds.Perm ds') : SameStatistics (ofDeclarations rule o ds) (ofDeclarations rule o ds') := by
  have hbad := h.filter (violates rule)
  have hchecked : (ofDeclarations rule o ds).checked = (ofDeclarations rule o ds').checked := by
    rw [checked_eq_countP, checked_eq_countP, h.countP_eq]
  have hvariable : (ofDeclarations rule o ds).acceptedByVariable =
      (ofDeclarations rule o ds').acceptedByVariable := by
    rw [acceptedByVariable_eq, acceptedByVariable_eq, h.countP_eq]
  have hviolations : (ofDeclarations rule o ds).violations =
      (ofDeclarations rule o ds').violations := by
    rw [violations_eq, violations_eq, hbad.length_eq]
  refine ⟨congrArg Int.ofNat h.length_eq, hchecked, hvariable, ?_, hviolations, ?_, ?_⟩
  · -- what is left of the checked declarations
    have hsum := checked_eq rule o ds
    have hsum' := checked_eq rule o ds'
    omega
  · rw [topLiterals_eq, topLiterals_eq, topLiteralsOf_eq_of_perm hbad]
  · rw [violationsByCategory_eq, violationsByCategory_eq, categoryCounts, categoryCounts,
      Tally.ranked_eq_of_perm ((hbad.map _).map _)]

/-- **The top literals are the true ones**: of the values of all declarations that violate the rule,
the ten that occur most often, with their properties. They and the other statistics do not depend on
the order of the declarations. -/
theorem topLiterals_exact (rule : Rule) (o : CheckOptions) (ds : List Declaration) :
    IsTop (ds.filter (violates rule)) (ofDeclarations rule o ds).topLiterals ∧
      ∀ ds' : List Declaration, ds.Perm ds' →
        SameStatistics (ofDeclarations rule o ds) (ofDeclarations rule o ds') := by
  refine ⟨?_, fun ds' h => sameStatistics_of_perm rule o h⟩
  rw [topLiterals_eq]
  exact isTop_topLiteralsOf _

private def declared (property value : Bytes) : Declaration :=
  { property, value, important := false, file := "a.css", position := ⟨1, 1⟩, lineText := [] }

private def badShades : List Declaration :=
  [declared "color" "tan", declared "fill-color" "red", declared "color" "red"]

private def shades : List Declaration := declared "top" "0" :: badShades

theorem topLiterals_exact_shades :
    ∃ rule, Rule.ofLiterals "/color/" [] = .ok rule ∧ shades.filter (violates rule) = badShades ∧
      IsTop badShades (ofDeclarations rule {} shades).topLiterals ∧
      shades.Perm (badShades ++ [declared "top" "0"]) ∧
      SameStatistics (ofDeclarations rule {} shades)
        (ofDeclarations rule {} (badShades ++ [declared "top" "0"])) := by
  obtain ⟨rule, hrule, hbad⟩ : ∃ rule, Rule.ofLiterals "/color/" [] = .ok rule ∧
      shades.filter (violates rule) = badShades := ⟨_, rfl, by decide +kernel⟩
  have hperm : shades.Perm (badShades ++ [declared "top" "0"]) :=
    (List.perm_append_singleton _ _).symm
  obtain ⟨htop, hsame⟩ := topLiterals_exact rule {} shades
  rw [hbad] at htop
  exact ⟨rule, hrule, hbad, htop, hperm, hsame _ hperm⟩

end Findings

end VarLint
