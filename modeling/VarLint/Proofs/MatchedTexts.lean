import VarLint.Proofs.PreferredMatch

/-!
# The texts that matches take

* `Spans`: the texts of all matches of an expression, put together from those of its parts
* `consumes_of_mem_ends`: a match takes the runes up to its end, each of a class of its expression
* `lt_index_of_mem_ends`: an expression that is not nullable takes at least one
* `index_past_eq_iff`, `head?_star_of_mem`: when a preferred match takes something
* `Accepts`, `Accepts.go_eq_some`: an expression that ends at the end of a text, and where its
  leftmost match starts
-/

namespace VarLint.Regex

/-! ## The texts that an expression takes -/

/-- A run of characters of a kind. -/
structure IsRun (ok : Char → Bool) (v : List Char) : Prop where
  ne_nil : v ≠ []
  all_ok : ∀ c ∈ v, ok c = true

namespace IsRun

variable {ok : Char → Bool} {c d : Char} {v : List Char}

theorem singleton (hc : ok c = true) : IsRun ok [c] := ⟨by simp, by simpa using hc⟩

theorem exists_cons (h : IsRun ok v) : ∃ c cs, v = c :: cs ∧ ok c = true := by
  obtain ⟨c, cs, rfl⟩ := List.exists_cons_of_ne_nil h.ne_nil
  exact ⟨c, cs, rfl, h.all_ok c (by simp)⟩

theorem tail (h : IsRun ok (c :: d :: v)) : IsRun ok (d :: v) :=
  ⟨by simp, fun e he => h.all_ok e (List.mem_cons_of_mem _ he)⟩

end IsRun

/-- The matches at a place take the texts of `L` that start there. -/
def Spans (r : Regex) (L : List Char → Prop) : Prop :=
  ∀ p q, q ∈ r.ends p ↔ ∃ w rest, p.after = w ++ rest ∧ L (w.map Rune.char) ∧ q = p.move w.length

section

variable {a b : Regex} {L M : List Char → Prop}

theorem Spans.ends_eq_nil_iff (h : a.Spans L) {p : Cursor} :
    a.ends p = [] ↔ ∀ v, L v → ¬ v <+: p.after.map Rune.char := by
  simp only [List.eq_nil_iff_forall_not_mem, h p]
  constructor
  · rintro hnone v hv ⟨t, ht⟩
    obtain ⟨w, rest, hp, rfl, -⟩ := List.map_eq_append_iff.1 ht.symm
    exact hnone _ ⟨w, rest, hp, hv, rfl⟩
  · rintro hnone q ⟨w, rest, hp, hw, -⟩
    exact hnone _ hw (by simp [hp])

theorem Spans.congr (h : a.Spans L) (hLM : ∀ v, L v ↔ M v) : a.Spans M :=
  (funext fun v => propext (hLM v) : L = M) ▸ h

theorem Spans.seq (ha : a.Spans L) (hb : b.Spans M) :
    (Regex.seq a b).Spans fun v => ∃ u t, v = u ++ t ∧ L u ∧ M t := by
  intro p q
  rw [ends, List.mem_flatMap]
  constructor
  · rintro ⟨s, hs, hq⟩
    obtain ⟨w, rest, hp, hw, rfl⟩ := (ha p s).1 hs
    obtain ⟨w', rest', hrest, hw', rfl⟩ := (hb _ q).1 hq
    rw [Cursor.after_move, hp, List.drop_left] at hrest
    refine ⟨w ++ w', rest', by rw [hp, hrest, List.append_assoc],
      ⟨_, _, List.map_append, hw, hw'⟩, ?_⟩
    rw [Cursor.move_move, List.length_append]
  · rintro ⟨w, rest, hp, ⟨u, t, hut, hu, ht⟩, rfl⟩
    obtain ⟨w, w', rfl, rfl, rfl⟩ := List.map_eq_append_iff.1 hut
    refine ⟨p.move w.length, (ha p _).2 ⟨w, w' ++ rest, by rw [hp, List.append_assoc], hu, rfl⟩,
      (hb _ _).2 ⟨w', rest, ?_, ht, ?_⟩⟩
    · rw [Cursor.after_move, hp, List.append_assoc, List.drop_left]
    · rw [Cursor.move_move, List.length_append]

theorem Spans.alt (ha : a.Spans L) (hb : b.Spans M) : (Regex.alt a b).Spans fun v => L v ∨ M v := by
  intro p q
  rw [ends, List.mem_append, ha p q, hb p q]
  constructor
  · rintro (⟨w, rest, hp, hw, hq⟩ | ⟨w, rest, hp, hw, hq⟩)
    · exact ⟨w, rest, hp, .inl hw, hq⟩
    · exact ⟨w, rest, hp, .inr hw, hq⟩
  · rintro ⟨w, rest, hp, hw | hw, hq⟩
    · exact .inl ⟨w, rest, hp, hw, hq⟩
    · exact .inr ⟨w, rest, hp, hw, hq⟩

theorem Spans.opt (ha : a.Spans L) : a.opt.Spans fun v => L v ∨ v = [] := by
  intro p q
  rw [ends_opt, List.mem_append, List.mem_singleton, ha p q]
  constructor
  · rintro (⟨w, rest, hp, hw, hq⟩ | rfl)
    · exact ⟨w, rest, hp, .inl hw, hq⟩
    · exact ⟨[], q.after, rfl, .inr rfl, by simp⟩
  · rintro ⟨w, rest, hp, hw | hw, rfl⟩
    · exact .inl ⟨w, rest, hp, hw, rfl⟩
    · simp [List.map_eq_nil_iff.1 hw]

theorem spans_char (k : CharClass) : (Regex.char k).Spans fun v => ∃ c, v = [c] ∧
    k.contains c = true := by
  intro p q
  rw [ends_char]
  constructor
  · intro hq
    cases hafter : p.after with
    | nil => simp [hafter] at hq
    | cons x rest =>
      by_cases hx : k.contains x.char = true
      · exact ⟨[x], rest, rfl, ⟨x.char, rfl, hx⟩, by simpa [hafter, hx] using hq⟩
      · simp [hafter, hx] at hq
  · rintro ⟨w, rest, hp, ⟨c, hc, hk⟩, rfl⟩
    obtain ⟨x, rfl, rfl⟩ := List.map_eq_singleton_iff.1 hc
    simp [hp, hk]

theorem spans_plus_char (k : CharClass) : (Regex.plus (.char k)).Spans (IsRun k.contains) := by
  intro p q
  rw [mem_ends_plus_char]
  constructor
  · rintro ⟨w, rest, hne, hp, hw, hq⟩
    exact ⟨w, rest, hp, ⟨by simpa using hne, by simpa using hw⟩, hq⟩
  · rintro ⟨w, rest, hp, ⟨hne, hw⟩, hq⟩
    exact ⟨w, rest, by simpa using hne, hp, by simpa using hw, hq⟩

theorem spans_star_char (k : CharClass) :
    (Regex.star (.char k)).Spans fun v => ∀ c ∈ v, k.contains c = true := by
  have hends : ∀ p, (Regex.star (.char k)).ends p = (Regex.plus (.char k)).opt.ends p := by
    intro p
    rw [ends_star_char, ends_opt, ends_plus_char]
    cases run k p.after with
    | zero => simp [downFrom]
    | succ n => simp [downFrom_succ, Function.comp_def]
  have hspans : (Regex.plus (.char k)).opt.Spans fun v => ∀ c ∈ v, k.contains c = true := by
    refine (spans_plus_char k).opt.congr fun v => ⟨?_, fun hv => ?_⟩
    · rintro (hrun | rfl)
      · exact hrun.all_ok
      · simp
    · by_cases hne : v = []
      · exact .inr hne
      · exact .inl ⟨hne, hv⟩
  intro p q
  rw [hends p]
  exact hspans p q

theorem spans_choice (ks : List String) :
    (choice (ks.map literal)).Spans fun v => ∃ k ∈ ks, v = k.toList := by
  intro p q
  simp only [ends_choice, List.mem_map, List.mem_filter, List.isPrefixOf_iff_prefix]
  constructor
  · rintro ⟨k, ⟨hk, t, ht⟩, rfl⟩
    obtain ⟨w, rest, hp, hw, -⟩ := List.map_eq_append_iff.1 ht.symm
    exact ⟨w, rest, hp, ⟨k, hk, hw⟩, by rw [← hw, List.length_map]⟩
  · rintro ⟨w, rest, hp, ⟨k, hk, hw⟩, rfl⟩
    exact ⟨k, ⟨hk, by simp [hp, ← hw]⟩, by rw [← hw, List.length_map]⟩

theorem spans_literal (k : String) : (literal k).Spans fun v => v = k.toList :=
  (spans_choice [k]).congr fun v => by simp

end

/-! ## What a match consumes -/

/-- Whether some class of the expression takes the character. -/
def mayTake (c : Char) : Regex → Bool
  | .empty | .assertion _ => false
  | .char k => k.contains c
  | .seq a b | .alt a b => a.mayTake c || b.mayTake c
  | .iterate _ _ _ body => body.mayTake c

/-- The runes from one place to another are all of a kind. -/
def Consumes (ok : Char → Bool) (p q : Cursor) : Prop :=
  ∃ w, p.after = w ++ q.after ∧ q.index = p.index + w.length ∧ ∀ x ∈ w, ok x.char = true

section

variable {ok : Char → Bool} {p q s : Cursor}

theorem Consumes.refl (ok : Char → Bool) (p : Cursor) : Consumes ok p p := ⟨[], rfl, rfl, by simp⟩

theorem Consumes.trans (h : Consumes ok p q) (h' : Consumes ok q s) : Consumes ok p s := by
  obtain ⟨w, hw, hindex, hok⟩ := h
  obtain ⟨w', hw', hindex', hok'⟩ := h'
  refine ⟨w ++ w', by rw [hw, hw', List.append_assoc], ?_, ?_⟩
  · rw [hindex', hindex, List.length_append]
    omega
  · intro x hx
    exact (List.mem_append.1 hx).elim (hok x) (hok' x)

theorem Consumes.mono {ok' : Char → Bool} (h : Consumes ok p q)
    (hok : ∀ c, ok c = true → ok' c = true) :
    Consumes ok' p q := by
  obtain ⟨w, hw, hindex, hall⟩ := h
  exact ⟨w, hw, hindex, fun x hx => hok _ (hall x hx)⟩

variable {body : Cursor → List Cursor}

theorem consumes_requiredEnds (hbody : ∀ p, ∀ q ∈ body p, Consumes ok p q) :
    ∀ (n : Nat) (p : Cursor), ∀ q ∈ requiredEnds body n p, Consumes ok p q
  | 0, p, q, hq => by
    obtain rfl := List.mem_singleton.1 hq
    exact .refl ok _
  | n + 1, p, q, hq => by
    obtain ⟨s, hs, hq⟩ := List.mem_flatMap.1 hq
    exact (hbody p s hs).trans (consumes_requiredEnds hbody n s q hq)

theorem consumes_upToEnds (hbody : ∀ p, ∀ q ∈ body p, Consumes ok p q) (greedy : Bool) :
    ∀ (n : Nat) (p : Cursor), ∀ q ∈ upToEnds body greedy n p, Consumes ok p q
  | 0, p, q, hq => by
    obtain rfl := List.mem_singleton.1 hq
    exact .refl ok _
  | n + 1, p, q, hq => by
    have hmore : q ∈ (body p).flatMap (upToEnds body greedy n) ∨ q = p := by
      cases greedy <;> simpa [upToEnds, or_comm] using hq
    rcases hmore with hq | rfl
    · obtain ⟨s, hs, hq⟩ := List.mem_flatMap.1 hq
      exact (hbody p s hs).trans (consumes_upToEnds hbody greedy n s q hq)
    · exact .refl ok _

theorem consumes_anyTimesEnds (hbody : ∀ p, ∀ q ∈ body p, Consumes ok p q) (greedy : Bool) :
    ∀ (bound : List Rune) (p : Cursor), ∀ q ∈ anyTimesEnds body greedy bound p, Consumes ok p q
  | [], p, q, hq => by
    obtain rfl := List.mem_singleton.1 hq
    exact .refl ok _
  | _ :: bound, p, q, hq => by
    have hmore : q ∈ ((body p).flatMap fun s =>
        if p.index < s.index then anyTimesEnds body greedy bound s else []) ∨ q = p := by
      cases greedy <;> simpa [anyTimesEnds, or_comm] using hq
    rcases hmore with hq | rfl
    · obtain ⟨s, hs, hq⟩ := List.mem_flatMap.1 hq
      split at hq
      · exact (hbody p s hs).trans (consumes_anyTimesEnds hbody greedy bound s q hq)
      · cases hq
    · exact .refl ok _

end

/-- **A match consumes the runes up to its end**, and only such as its classes take. -/
theorem consumes_of_mem_ends (r : Regex) :
    ∀ p, ∀ q ∈ r.ends p, Consumes (fun c => r.mayTake c) p q := by
  induction r with
  | empty =>
    intro p q hq
    obtain rfl := List.mem_singleton.1 hq
    exact .refl _ _
  | char k =>
    intro p q hq
    obtain ⟨w, rest, hp, ⟨c, hw, hc⟩, rfl⟩ := (spans_char k p q).1 hq
    obtain ⟨x, rfl, rfl⟩ := List.map_eq_singleton_iff.1 hw
    exact ⟨[x], by simp [hp], Cursor.index_move (by simp [hp]), by simpa [mayTake] using hc⟩
  | assertion a =>
    intro p q hq
    rw [ends] at hq
    split at hq
    · obtain rfl := List.mem_singleton.1 hq
      exact .refl _ _
    · cases hq
  | seq a b iha ihb =>
    intro p q hq
    obtain ⟨s, hs, hq⟩ := List.mem_flatMap.1 hq
    exact ((iha p s hs).mono fun c hc => by simp [mayTake, hc]).trans
      ((ihb s q hq).mono fun c hc => by simp [mayTake, hc])
  | alt a b iha ihb =>
    intro p q hq
    rcases List.mem_append.1 hq with hq | hq
    · exact (iha p q hq).mono fun c hc => by simp [mayTake, hc]
    · exact (ihb p q hq).mono fun c hc => by simp [mayTake, hc]
  | iterate least most greedy body ih =>
    intro p q hq
    cases most with
    | none =>
      obtain ⟨s, hs, hq⟩ := List.mem_flatMap.1 hq
      exact (consumes_requiredEnds ih least p s hs).trans
        (consumes_anyTimesEnds ih greedy s.after s q hq)
    | some most =>
      obtain ⟨s, hs, hq⟩ := List.mem_flatMap.1 hq
      exact (consumes_requiredEnds ih least p s hs).trans
        (consumes_upToEnds ih greedy (most - least) s q hq)

/-- Whether the expression may match without consuming anything. -/
def isNullable : Regex → Bool
  | .empty | .assertion _ => true
  | .char _ => false
  | .seq a b => a.isNullable && b.isNullable
  | .alt a b => a.isNullable || b.isNullable
  | .iterate least _ _ body => least == 0 || body.isNullable

theorem le_index_of_mem_ends {r : Regex} {p q : Cursor} (hq : q ∈ r.ends p) :
    p.index ≤ q.index := by
  obtain ⟨w, -, hindex, -⟩ := consumes_of_mem_ends r p q hq
  omega

/-- **A match of an expression that is not nullable moves on.** -/
theorem lt_index_of_mem_ends {r : Regex} (h : r.isNullable = false) :
    ∀ {p q : Cursor}, q ∈ r.ends p → p.index < q.index := by
  induction r with
  | empty => cases h
  | assertion a => cases h
  | char k =>
    intro p q hq
    obtain ⟨w, rest, hp, ⟨c, hw, -⟩, rfl⟩ := (spans_char k p q).1 hq
    obtain ⟨x, rfl, rfl⟩ := List.map_eq_singleton_iff.1 hw
    rw [Cursor.index_move (by simp [hp])]
    simp
  | seq a b iha ihb =>
    intro p q hq
    obtain ⟨s, hs, hq⟩ := List.mem_flatMap.1 hq
    rcases Bool.and_eq_false_iff.1 h with ha | hb
    · exact Nat.lt_of_lt_of_le (iha ha hs) (le_index_of_mem_ends hq)
    · exact Nat.lt_of_le_of_lt (le_index_of_mem_ends hs) (ihb hb hq)
  | alt a b iha ihb =>
    intro p q hq
    obtain ⟨ha, hb⟩ := Bool.or_eq_false_iff.1 h
    exact (List.mem_append.1 hq).elim (iha ha) (ihb hb)
  | iterate least most greedy body ih =>
    intro p q hq
    obtain ⟨hleast, hbody⟩ := Bool.or_eq_false_iff.1 h
    obtain ⟨n, rfl⟩ : ∃ n, least = n + 1 := ⟨least - 1, by have := ne_of_beq_false hleast; omega⟩
    -- the first round is required and moves on, and nothing goes back
    have hround : ∀ {s}, s ∈ requiredEnds body.ends (n + 1) p → p.index < s.index := by
      intro s hs
      obtain ⟨t, ht, hs⟩ := List.mem_flatMap.1 hs
      obtain ⟨w, -, hindex, -⟩ := consumes_requiredEnds (consumes_of_mem_ends body) n t s hs
      have := ih hbody ht
      omega
    cases most with
    | none =>
      obtain ⟨s, hs, hq⟩ := List.mem_flatMap.1 hq
      obtain ⟨w, -, hindex, -⟩ :=
        consumes_anyTimesEnds (consumes_of_mem_ends body) greedy s.after s q hq
      have := hround hs
      omega
    | some most =>
      obtain ⟨s, hs, hq⟩ := List.mem_flatMap.1 hq
      obtain ⟨w, -, hindex, -⟩ :=
        consumes_upToEnds (consumes_of_mem_ends body) greedy (most - (n + 1)) s q hq
      have := hround hs
      omega

theorem le_index_past (r : Regex) (p : Cursor) : p.index ≤ (r.past p).index := by
  rw [past]
  cases hends : r.ends p with
  | nil => exact Nat.le_refl _
  | cons q more => exact le_index_of_mem_ends (r := r) (by simp [hends])

theorem index_past_eq_iff {r : Regex} (h : r.isNullable = false) (p : Cursor) :
    (r.past p).index = p.index ↔ r.ends p = [] := by
  rw [past]
  cases hends : r.ends p with
  | nil => simp
  | cons q more =>
    have hlt : p.index < q.index := lt_index_of_mem_ends h (by simp [hends])
    simpa using hlt.ne'

theorem index_past_past_eq_iff {a b : Regex} (ha : a.isNullable = false) (hb : b.isNullable = false)
    (p : Cursor) : (b.past (a.past p)).index = p.index ↔ a.ends p = [] ∧ b.ends p = [] := by
  have hle := le_index_past a p
  have hle' := le_index_past b (a.past p)
  constructor
  · intro h
    have hnil := (index_past_eq_iff ha p).1 (by omega)
    rw [past_of_ends_nil hnil, index_past_eq_iff hb] at h
    exact ⟨hnil, h⟩
  · rintro ⟨hnil, hnil'⟩
    rw [past_of_ends_nil hnil, past_of_ends_nil hnil']

theorem head?_star_of_mem {r : Regex} (h : r.isNullable = false) {p q : Cursor}
    (hq : q ∈ r.ends p) :
    ∃ s, (r.star.ends p).head? = some s ∧ p.index < s.index := by
  have hlt := lt_index_of_mem_ends h hq
  obtain ⟨w, hw, hindex, -⟩ := consumes_of_mem_ends r p q hq
  obtain ⟨x, bound, hbound⟩ : ∃ x bound, p.after = x :: bound := by
    refine List.exists_cons_of_ne_nil ?_
    rw [hw]
    rintro hnil
    rw [(List.append_eq_nil_iff.1 hnil).1, List.length_nil] at hindex
    omega
  have hfirst : ∀ bound s, anyTimesEnds r.ends true bound s ≠ [] := by
    intro bound s
    cases bound <;> simp [anyTimesEnds]
  obtain ⟨rounds, hrounds⟩ : ∃ rounds, rounds = (r.ends p).flatMap fun s =>
      if p.index < s.index then anyTimesEnds r.ends true bound s else [] := ⟨_, rfl⟩
  have hne : rounds ≠ [] := by
    intro hnil
    have hq' := List.flatMap_eq_nil_iff.1 (hrounds.symm.trans hnil) q hq
    rw [if_pos hlt] at hq'
    exact hfirst bound q hq'
  obtain ⟨s, more, rfl⟩ := List.exists_cons_of_ne_nil hne
  refine ⟨s, ?_, ?_⟩
  · rw [ends_star, hbound, anyTimesEnds, ← hrounds]
    rfl
  · obtain ⟨t, ht, hs⟩ := List.mem_flatMap.1 (hrounds ▸ List.mem_cons_self : s ∈ _)
    rw [if_pos (lt_index_of_mem_ends h ht)] at hs
    obtain ⟨w', -, hindex', -⟩ := consumes_anyTimesEnds (consumes_of_mem_ends r) true bound t s hs
    have := lt_index_of_mem_ends h ht
    omega

/-! ## Matches up to the end of a text -/

section

variable {a b r : Regex} {L M : List Char → Prop}

/-- A match starts at a place if and only if all that follows is in `L`. -/
def Accepts (r : Regex) (L : List Char → Prop) : Prop :=
  ∀ p, r.ends p ≠ [] ↔ L (p.after.map Rune.char)

theorem Accepts.congr (h : r.Accepts L) (hLM : ∀ v, L v ↔ M v) : r.Accepts M :=
  (funext fun v => propext (hLM v) : L = M) ▸ h

theorem accepts_textEnd : (Regex.assertion .textEnd).Accepts fun v => v = [] := by
  intro p
  rw [ends]
  cases p.after <;> simp [Assertion.holds]

theorem Spans.accepts (ha : a.Spans L) (hb : b.Accepts M) :
    (Regex.seq a b).Accepts fun v => ∃ u t, v = u ++ t ∧ L u ∧ M t := by
  intro p
  rw [ends, Ne, List.flatMap_eq_nil_iff, not_forall₂]
  constructor
  · rintro ⟨q, hq, hne⟩
    obtain ⟨w, rest, hp, hw, rfl⟩ := (ha p q).1 hq
    have hrest := (hb _).1 hne
    rw [Cursor.after_move, hp, List.drop_left] at hrest
    exact ⟨_, _, by rw [hp, List.map_append], hw, hrest⟩
  · rintro ⟨u, t, hut, hu, ht⟩
    obtain ⟨w, rest, hp, rfl, rfl⟩ := List.map_eq_append_iff.1 hut
    refine ⟨p.move w.length, (ha p _).2 ⟨w, rest, hp, hu, rfl⟩, (hb _).2 ?_⟩
    rw [Cursor.after_move, hp, List.drop_left]
    exact ht

theorem lengthAt_eq_none_iff {p : Cursor} : r.lengthAt p = none ↔ r.ends p = [] := by
  rw [lengthAt_eq, Option.map_eq_none_iff, List.head?_eq_none_iff]

theorem Accepts.lengthAt (h : r.Accepts L) (before : Option Char) (rs : List Rune) :
    r.lengthAt ⟨0, before, rs⟩ = none ↔ ¬ L (rs.map Rune.char) := by
  rw [lengthAt_eq_none_iff, ← h ⟨0, before, rs⟩, not_not]

/-- **The leftmost match** starts where `L` holds of the rest for the first time. -/
theorem Accepts.go_eq_some (h : r.Accepts L) {v : List Rune} (hv : L (v.map Rune.char)) :
    ∀ {u : List Rune},
      (∀ front back, u = front ++ back → back ≠ [] → ¬ L ((back ++ v).map Rune.char)) →
      ∀ before, beforeFirst?.go r before (u ++ v) = some u
  | [], _, before => by
    have hlen : r.lengthAt ⟨0, before, v⟩ ≠ none := fun hnone => (h.lengthAt before v).1 hnone hv
    obtain ⟨n, hn⟩ := Option.ne_none_iff_exists'.1 hlen
    cases v with
    | nil => simp [beforeFirst?.go, hn]
    | cons x v => simp [beforeFirst?.go, hn]
  | x :: u, hfirst, before => by
    have hnone : r.lengthAt ⟨0, before, x :: (u ++ v)⟩ = none :=
      (h.lengthAt before _).2 (hfirst [] (x :: u) rfl (by simp))
    have hfirst' : ∀ front back, u = front ++ back → back ≠ [] → ¬ L ((back ++ v).map Rune.char) :=
      fun front back hu hne => hfirst (x :: front) back (by rw [hu, List.cons_append]) hne
    rw [List.cons_append, beforeFirst?.go, hnone]
    simp only [h.go_eq_some hv hfirst', Option.map_some]

theorem Accepts.go_eq_none (h : r.Accepts L) : ∀ {rs : List Rune},
    (∀ v, v <:+ rs → ¬ L (v.map Rune.char)) → ∀ before, beforeFirst?.go r before rs = none
  | [], hnone, before => by
    rw [beforeFirst?.go, (h.lengthAt before []).2 (hnone [] List.suffix_rfl)]
    rfl
  | x :: rs, hnone, before => by
    have hnone' : ∀ v, v <:+ rs → ¬ L (v.map Rune.char) :=
      fun v hv => hnone v (hv.trans (List.suffix_cons x rs))
    rw [beforeFirst?.go, (h.lengthAt before (x :: rs)).2 (hnone _ List.suffix_rfl)]
    simp only [h.go_eq_none hnone', Option.map_none]

end

end VarLint.Regex
