import Mathlib.Data.List.Flatten
import VarLint.Proofs.Leftover
import VarLint.Proofs.MatchedTexts

/-!
# Seams

Deleting matches brings characters together that did not stand together, and these may make a new
match.

* `Recognizes`, `deleteFrom_eq_self_iff`: a text is left as it is if and only if it has no part that
  is deleted
* `seamsFrom`, `exists_standing`: a word that is left stood in the text, unless a seam runs through
  it
* `not_infix_of_step`: no part is left anywhere if none starts at a rune that is kept
* `trim_deleteAll_eq_self_iff`, `chars_deleteAll`: the same for texts
-/

namespace VarLint.Regex

/-! ## Parts that are deleted -/

/-- Whether no match takes anything at the place. -/
def keeps (r : Regex) (before : Option Char) (rs : List Rune) : Bool :=
  (r.lengthAt ⟨0, before, rs⟩).getD 0 == 0

section

variable {r : Regex} {before : Option Char} {x : Rune} {rs xs : List Rune}

theorem keeps_iff : r.keeps before rs = true ↔ ∀ n, r.lengthAt ⟨0, before, rs⟩ ≠ some (n + 1) := by
  rw [keeps]
  rcases r.lengthAt ⟨0, before, rs⟩ with _ | _ | n <;> simp

theorem keeps_iff_of_head? {q : Cursor} (h : (r.ends ⟨0, before, rs⟩).head? = some q) :
    r.keeps before rs = true ↔ q.index = 0 := by
  simp [keeps, lengthAt_eq, h]

theorem exists_of_lengthAt {p : Cursor} {n : Nat} (h : r.lengthAt p = some n) :
    ∃ w rest, p.after = w ++ rest ∧ w.length = n ∧ ∀ x ∈ w, r.mayTake x.char = true := by
  rw [lengthAt_eq, Option.map_eq_some_iff] at h
  obtain ⟨q, hq, rfl⟩ := h
  obtain ⟨w, hw, hindex, hok⟩ := consumes_of_mem_ends r p q (List.mem_of_mem_head? hq)
  exact ⟨w, q.after, hw, by omega, hok⟩

@[simp] theorem keeps_nil : r.keeps before [] = true := by
  rw [keeps_iff]
  intro n hn
  obtain ⟨w, rest, hw, hlen, -⟩ := exists_of_lengthAt hn
  rw [(List.append_eq_nil_iff.1 hw.symm).1] at hlen
  cases hlen

theorem deleteFrom_cons_of_keeps (h : r.keeps before (x :: xs) = true) :
    r.deleteFrom 0 before (x :: xs) = x :: r.deleteFrom 0 (some x.char) xs := by
  rw [deleteFrom]
  split
  · next n hn => exact absurd hn (keeps_iff.1 h n)
  · rfl

theorem exists_deleteFrom_cons (h : r.keeps before (x :: xs) = false) :
    ∃ n, r.lengthAt ⟨0, before, x :: xs⟩ = some (n + 1) ∧
      r.deleteFrom 0 before (x :: xs) = r.deleteFrom n (some x.char) xs := by
  rw [Bool.eq_false_iff, Ne, keeps_iff, not_forall] at h
  obtain ⟨n, hn⟩ := h
  rw [not_not] at hn
  exact ⟨n, hn, by rw [deleteFrom, hn]⟩

variable {Part : List Char → Prop}

/-- Something is taken at a place if and only if one of the parts starts there. -/
def Recognizes (r : Regex) (Part : List Char → Prop) : Prop :=
  ∀ before rs, r.keeps before rs = true ↔ ∀ v, Part v → ¬ v <+: rs.map Rune.char

theorem Recognizes.congr {Part' : List Char → Prop} (h : r.Recognizes Part)
    (hparts : ∀ v, Part v ↔ Part' v) :
    r.Recognizes Part' :=
  (funext fun v => propext (hparts v) : Part = Part') ▸ h

/-- Two optional expressions take something where one of them does. -/
theorem Spans.recognizes {a b : Regex} {L M : List Char → Prop} (ha : a.Spans L) (hb : b.Spans M)
    (hna : a.isNullable = false) (hnb : b.isNullable = false) :
    (Regex.seq a.opt b.opt).Recognizes fun v => L v ∨ M v := by
  intro before rs
  rw [keeps_iff_of_head? (head?_seq_opt a b _)]
  have hstay := index_past_past_eq_iff hna hnb ⟨0, before, rs⟩
  rw [ha.ends_eq_nil_iff, hb.ends_eq_nil_iff] at hstay
  simp only [hstay, or_imp, forall_and]

/-- The same with any number of rounds in front of them. -/
theorem Spans.recognizes_star {a b c : Regex} {L M N : List Char → Prop} (ha : a.Spans L)
    (hb : b.Spans M) (hc : c.Spans N) (hna : a.isNullable = false) (hnb : b.isNullable = false)
    (hnc : c.isNullable = false) :
    (Regex.seq a.star (.seq b.opt c.opt)).Recognizes fun v => L v ∨ M v ∨ N v := by
  intro before rs
  have hhead : ∀ {s}, (a.star.ends ⟨0, before, rs⟩).head? = some s →
      ((Regex.seq a.star (.seq b.opt c.opt)).ends ⟨0, before, rs⟩).head? =
        some (c.past (b.past s)) := by
    intro s hs
    obtain ⟨more, hends⟩ := List.head?_eq_some_iff.1 hs
    rw [head?_seq, hends, List.findSome?_cons, head?_seq_opt]
  have hstay := index_past_past_eq_iff hnb hnc ⟨0, before, rs⟩
  have hrounds := ha.ends_eq_nil_iff (p := ⟨0, before, rs⟩)
  rw [hb.ends_eq_nil_iff, hc.ends_eq_nil_iff] at hstay
  simp only [or_imp, forall_and]
  rw [← hrounds, ← hstay]
  by_cases hnil : a.ends ⟨0, before, rs⟩ = []
  · rw [keeps_iff_of_head? (hhead (by rw [ends_star_none hnil]; rfl))]
    simp [hnil]
  · obtain ⟨q, hq⟩ := List.exists_mem_of_ne_nil _ hnil
    obtain ⟨s, hs, hlt⟩ := head?_star_of_mem hna hq
    have hle := le_index_past b s
    have hle' := le_index_past c (b.past s)
    rw [keeps_iff_of_head? (hhead hs)]
    constructor
    · intro h
      omega
    · exact fun h => absurd h.1 hnil

/-- **A text is left as it is** if and only if it has none of the parts. -/
theorem Recognizes.deleteFrom_eq_self_iff (h : r.Recognizes Part) :
    ∀ {rs : List Rune} (before : Option Char),
    r.deleteFrom 0 before rs = rs ↔ ∀ v, Part v → ¬ v <:+: rs.map Rune.char
  | [], before => by
    have hnone := (h before []).1 keeps_nil
    simpa [deleteFrom] using hnone
  | x :: xs, before => by
    simp only [List.map_cons, List.infix_cons_iff, not_or, forall_and]
    by_cases hx : r.keeps before (x :: xs) = true
    · rw [deleteFrom_cons_of_keeps hx, List.cons.injEq, h.deleteFrom_eq_self_iff (some x.char)]
      have hstart := (h before (x :: xs)).1 hx
      exact ⟨fun hself => ⟨hstart, hself.2⟩, fun hall => ⟨rfl, hall.2⟩⟩
    · obtain ⟨n, -, hdelete⟩ := exists_deleteFrom_cons (Bool.not_eq_true _ ▸ hx)
      have hlen := (deleteFrom_sublist r xs n (some x.char)).length_le
      rw [h before (x :: xs)] at hx
      constructor
      · intro hself
        rw [hdelete] at hself
        rw [hself, List.length_cons] at hlen
        omega
      · exact fun hall => absurd hall.1 hx

end

/-! ## Seams -/

/-- The pairs of characters that stand together only because what stood between them is deleted.
`skip` runes are still to be deleted. -/
def seamsFrom (r : Regex) : Nat → Option Char → List Rune → List (Char × Char)
  | _, _, [] => []
  | skip + 1, _, x :: xs => seamsFrom r skip (some x.char) xs
  | 0, before, x :: xs =>
    match r.lengthAt ⟨0, before, x :: xs⟩ with
    | some (n + 1) => seamsFrom r n (some x.char) xs
    | _ =>
      let behind := r.deleteFrom 0 (some x.char) xs
      let here := if r.keeps (some x.char) xs then []
        else behind.head?.toList.map fun y => (x.char, y.char)
      here ++ seamsFrom r 0 (some x.char) xs

/-- The seams of a text. -/
def seams (r : Regex) (s : Bytes) : List (Char × Char) := r.seamsFrom 0 none s.runes

section

variable {r : Regex} {before : Option Char} {x y : Rune} {xs ys : List Rune}

theorem seamsFrom_cons_of_keeps (h : r.keeps before (x :: xs) = true) :
    r.seamsFrom 0 before (x :: xs) =
    (if r.keeps (some x.char) xs then [] else
      (r.deleteFrom 0 (some x.char) xs).head?.toList.map fun y => (x.char, y.char)) ++
      r.seamsFrom 0 (some x.char) xs := by
  rw [seamsFrom]
  split
  · next n hn => exact absurd hn (keeps_iff.1 h n)
  · rfl

/-- What is left behind a rune that is kept stood there, or there is a seam. -/
theorem left_behind (h : r.keeps before (x :: xs) = true)
    (hy : r.deleteFrom 0 (some x.char) xs = y :: ys) :
    (∃ more, xs = y :: more ∧ r.keeps (some x.char) (y :: more) = true ∧
      ys = r.deleteFrom 0 (some y.char) more) ∨
      (x.char, y.char) ∈ r.seamsFrom 0 before (x :: xs) := by
  by_cases hkeeps : r.keeps (some x.char) xs = true
  · cases xs with
    | nil => cases hy
    | cons z more =>
      rw [deleteFrom_cons_of_keeps hkeeps, List.cons.injEq] at hy
      obtain ⟨rfl, rfl⟩ := hy
      exact .inl ⟨more, rfl, hkeeps, rfl⟩
  · refine .inr ?_
    rw [seamsFrom_cons_of_keeps h, if_neg hkeeps, hy]
    simp

variable {joins : Char → Char → Prop}

/-- **A word that is left stood in the text**, unless a seam joins two of its characters. -/
theorem exists_standing : ∀ {v : List Char} {before : Option Char} {x : Rune} {xs : List Rune},
    r.keeps before (x :: xs) = true → (∀ s ∈ r.seamsFrom 0 before (x :: xs), ¬ joins s.1 s.2) →
    (x.char :: v).IsChain joins → v <+: (r.deleteFrom 0 (some x.char) xs).map Rune.char →
    ∃ w rest last, xs = w ++ rest ∧ w.map Rune.char = v ∧
      r.deleteFrom 0 (some x.char) xs = w ++ r.deleteFrom 0 last rest
  | [], _, x, xs, _, _, _, _ => ⟨[], xs, some x.char, rfl, rfl, rfl⟩
  | c :: v, before, x, xs, hx, hseams, hchain, hv => by
    obtain ⟨t, ht⟩ := hv
    obtain ⟨y, ys, hleft, rfl, hys⟩ := List.map_eq_cons_iff.1 ht.symm
    rw [List.isChain_cons_cons] at hchain
    rcases left_behind hx hleft with ⟨more, rfl, hy, rfl⟩ | hseam
    · have hseams' : ∀ s ∈ r.seamsFrom 0 (some x.char) (y :: more), ¬ joins s.1 s.2 := by
        intro s hs
        refine hseams s ?_
        rw [seamsFrom_cons_of_keeps hx]
        exact List.mem_append_right _ hs
      obtain ⟨w, rest, last, rfl, hw, hdelete⟩ := exists_standing hy hseams' hchain.2 ⟨t, hys.symm⟩
      refine ⟨y :: w, rest, last, rfl, by rw [List.map_cons, hw], ?_⟩
      rw [hleft, hdelete, List.cons_append]
    · exact absurd hchain.1 (hseams _ hseam)

/-- What is left stood in the text in the same order; what is deleted between is of the kind that
the expression takes. -/
theorem exists_before_left {ok : Char → Prop} (hok : ∀ c, r.mayTake c = true → ok c) (skip : Nat)
    (before : Option Char) (rs : List Rune) (hskip : ∀ x ∈ rs.take skip, ok x.char)
    {bs more : List Rune} (h : r.deleteFrom skip before rs = bs ++ y :: more)
    (hbs : ∀ x ∈ bs, ok x.char) :
    ∃ cs rest, rs = cs ++ y :: rest ∧ (∀ x ∈ cs, ok x.char) ∧ bs.length ≤ cs.length := by
  fun_induction deleteFrom r skip before rs generalizing bs with
  | case1 => simp at h
  | case2 before skip x xs ih =>
    obtain ⟨cs, rest, rfl, hcs, hlen⟩ := ih (fun z hz => hskip z (by simp [hz])) h hbs
    refine ⟨x :: cs, rest, rfl, ?_, by simp; omega⟩
    simpa using ⟨hskip x (by simp), hcs⟩
  | case3 before x xs n hn ih =>
    -- the runes still to be deleted belong to the match, so its classes take them
    obtain ⟨w, rest, hw, hlen, htake⟩ := exists_of_lengthAt hn
    obtain ⟨z, w, rfl⟩ := List.exists_cons_of_ne_nil
      (List.length_pos_iff.1 (by omega : 0 < w.length))
    obtain ⟨rfl, rfl⟩ := List.cons.inj hw
    have hdeleted : ∀ z ∈ (w ++ rest).take n, ok z.char := by
      intro z hz
      rw [List.take_left' (by simpa using hlen)] at hz
      exact hok _ (htake z (List.mem_cons_of_mem _ hz))
    obtain ⟨cs, rest', hrs, hcs, hle⟩ := ih hdeleted h hbs
    refine ⟨x :: cs, rest', by rw [hrs, List.cons_append], ?_, by simp; omega⟩
    simpa using ⟨hok _ (htake x (by simp)), hcs⟩
  | case4 before x xs hn ih =>
    cases bs with
    | nil =>
      obtain ⟨rfl, -⟩ := List.cons.inj h
      exact ⟨[], xs, rfl, by simp, by simp⟩
    | cons b bs =>
      obtain ⟨rfl, hrest⟩ := List.cons.inj h
      obtain ⟨cs, rest, rfl, hcs, hle⟩ :=
        ih (by simp) hrest fun z hz => hbs z (List.mem_cons_of_mem _ hz)
      refine ⟨x :: cs, rest, rfl, ?_, by simpa using hle⟩
      simpa using ⟨hbs x (by simp), hcs⟩

variable {Part : List Char → Prop}

/-- **No part is left anywhere** if none starts at a rune that is kept, given that none is left
behind it. -/
theorem not_infix_of_step (hne : ∀ v, Part v → v ≠ [])
    (hstep : ∀ before x xs, r.keeps before (x :: xs) = true →
      (∀ s ∈ r.seamsFrom 0 before (x :: xs), ¬ joins s.1 s.2) →
      (∀ v, Part v → ¬ v <:+: (r.deleteFrom 0 (some x.char) xs).map Rune.char) →
      ∀ v, Part v → ¬ v <+: x.char :: (r.deleteFrom 0 (some x.char) xs).map Rune.char)
    (skip : Nat) (before : Option Char) (rs : List Rune)
    (hseams : ∀ s ∈ r.seamsFrom skip before rs, ¬ joins s.1 s.2) :
    ∀ v, Part v → ¬ v <:+: (r.deleteFrom skip before rs).map Rune.char := by
  fun_induction deleteFrom r skip before rs with
  | case1 =>
    intro v hv hinfix
    exact hne v hv (by simpa using hinfix)
  | case2 before skip x xs ih => exact ih hseams
  | case3 before x xs n hn ih =>
    refine ih ?_
    rw [seamsFrom, hn] at hseams
    exact hseams
  | case4 before x xs hn ih =>
    have hx : r.keeps before (x :: xs) = true := keeps_iff.2 hn
    have hbehind := ih fun s hs => hseams s (by rw [seamsFrom_cons_of_keeps hx]; simp [hs])
    intro v hv hinfix
    rw [List.map_cons, List.infix_cons_iff] at hinfix
    exact hinfix.elim (hstep before x xs hx hseams hbehind v hv) (hbehind v hv)

end

/-! ## Texts -/

section

variable {r : Regex} {Part : List Char → Prop} {s : Bytes}

theorem eq_of_sublist_of_length_le {ys xs : List Rune} (h : ys.Sublist xs)
    (hne : ∀ x ∈ xs, x.bytes ≠ []) (hlen : (Bytes.ofRunes xs).length ≤ (Bytes.ofRunes ys).length) :
    ys = xs := by
  have hle : ∀ {ys xs : List Rune}, ys.Sublist xs →
      (Bytes.ofRunes ys).length ≤ (Bytes.ofRunes xs).length :=
    fun h => (h.flatMap _).length_le
  induction h with
  | slnil => rfl
  | cons x h ih =>
    have hx := List.length_pos_iff.2 (hne x (by simp))
    have hrest := hle h
    rw [Bytes.ofRunes_cons, List.length_append] at hlen
    omega
  | cons_cons x h ih =>
    rw [Bytes.ofRunes_cons, Bytes.ofRunes_cons, List.length_append, List.length_append] at hlen
    rw [ih (fun y hy => hne y (List.mem_cons_of_mem _ hy)) (by omega)]

/-- **A trimmed text stays as it is** if and only if it has none of the parts. -/
theorem Recognizes.trim_deleteAll_eq_self_iff (h : r.Recognizes Part) (hs : s.trim = s) :
    (r.deleteAll s).trim = s ↔ ∀ v, Part v → ¬ v <:+: s.chars := by
  rw [Bytes.chars, ← h.deleteFrom_eq_self_iff none]
  constructor
  · intro hself
    refine eq_of_sublist_of_length_le (deleteFrom_sublist r s.runes 0 none)
      (fun x hx => Bytes.bytes_ne_nil hx) ?_
    -- as many bytes are left as there were, and every rune has some
    obtain ⟨front, back, hdelete, -, -⟩ := Bytes.exists_trim (r.deleteAll s)
    rw [hself] at hdelete
    have hlen := congrArg List.length hdelete
    rw [List.length_append, List.length_append, deleteAll] at hlen
    rw [Bytes.ofRunes_runes]
    omega
  · intro hself
    rw [deleteAll, hself, Bytes.ofRunes_runes, hs]

/-- What is left of a well-formed text is read as the runes that are kept. -/
theorem chars_deleteAll (r : Regex) (hs : s.isWellFormed = true) :
    (r.deleteAll s).chars = (r.deleteFrom 0 none s.runes).map Rune.char := by
  have hwritten : r.deleteAll s = Bytes.ofChars ((r.deleteFrom 0 none s.runes).map Rune.char) := by
    rw [deleteAll, Bytes.ofRunes, Bytes.ofChars, List.flatMap_map]
    refine List.flatMap_congr fun x hx => ?_
    exact (Bytes.encode_of_isWellFormed hs ((deleteFrom_sublist r s.runes 0 none).subset hx)).symm
  rw [hwritten, Bytes.chars_ofChars]

end

end VarLint.Regex
