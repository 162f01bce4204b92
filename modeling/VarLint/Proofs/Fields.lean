import Mathlib.Data.List.TakeWhile
import VarLint.Proofs.Decoding

/-!
# Texts as fields with blanks between them

A text is empty, or starts with a blank, or starts with a field that ends where the text ends or a
blank stands (`field_induction`). Its fields are found along this reading:

* `fields_blank`, `fields_append`: what a blank and what a field in front adds to the fields.
* `fields_append_blank`: at a blank the fields can be counted apart.
* `runsBetween_chars`, `fields_ofChars`: fields are cut from the characters as they are from the
  text.
* `fields_trim`, `trim_trim`: trimming leaves the fields alone, and trimming again changes nothing.
* `isTrimmed_trim`, `trim_of_isTrimmed`: a text has no blank at its ends if and only if it is
  trimmed.
-/

namespace VarLint.Bytes

/-! ## Runs -/

section

variable {α β : Type} {p : α → Bool}

@[simp] theorem runsBetween_nil : runsBetween p [] = [] := rfl

theorem runsBetween_skip {x : α} (hx : p x = true) (xs : List α) :
    runsBetween p (x :: xs) = runsBetween p xs := by
  rw [runsBetween.eq_def]
  simp [hx]

theorem runsBetween_last {x : α} (hx : p x = false) {xs : List α}
    (hxs : ∀ y ∈ xs.head?, p y = true) :
    runsBetween p (x :: xs) = [x] :: runsBetween p xs := by
  cases xs with
  | nil => simp [runsBetween, hx]
  | cons y ys =>
    rw [runsBetween.eq_def]
    simp [hx, hxs y rfl]

theorem runsBetween_more {x y : α} (hx : p x = false) (hy : p y = false) {ys run : List α}
    {runs : List (List α)} (h : runsBetween p (y :: ys) = run :: runs) :
    runsBetween p (x :: y :: ys) = (x :: run) :: runs := by
  rw [runsBetween.eq_def]
  simp [hx, hy, h]

/-- The first run starts where the elements do, if they start with none to cut at. -/
theorem exists_runsBetween {x : α} (hx : p x = false) (xs : List α) :
    ∃ run runs, runsBetween p (x :: xs) = (x :: run) :: runs ∧ run <+: xs := by
  induction xs generalizing x with
  | nil => exact ⟨[], [], runsBetween_last hx (by simp), List.nil_prefix⟩
  | cons y ys ih =>
    cases hy : p y with
    | true => exact ⟨[], _, runsBetween_last hx (by simp [hy]), List.nil_prefix⟩
    | false =>
      obtain ⟨run, runs, h, hrun⟩ := ih hy
      exact ⟨y :: run, runs, runsBetween_more hx hy h, List.cons_prefix_cons.2 ⟨rfl, hrun⟩⟩

/-- **The runs on both sides of a separator.** -/
theorem runsBetween_append {x : α} (hx : p x = true) (ys : List α) : ∀ xs : List α,
    runsBetween p (xs ++ x :: ys) = runsBetween p xs ++ runsBetween p ys
  | [] => runsBetween_skip hx ys
  | [z] => by
    cases hz : p z with
    | true => rw [List.singleton_append, runsBetween_skip hz, runsBetween_skip hx,
        runsBetween_skip hz]; rfl
    | false =>
      rw [List.singleton_append, runsBetween_last hz (by simp [hx]), runsBetween_skip hx,
        runsBetween_last hz (by simp)]
      rfl
  | z :: y :: zs => by
    have ih := runsBetween_append hx ys (y :: zs)
    rw [List.cons_append] at ih
    rw [List.cons_append, List.cons_append]
    cases hz : p z with
    | true => rw [runsBetween_skip hz, ih, runsBetween_skip hz]
    | false =>
      cases hy : p y with
      | true =>
        rw [runsBetween_last hz (by simp [hy]), ih, runsBetween_last hz (by simp [hy])]
        rfl
      | false =>
        obtain ⟨run, runs, h, -⟩ := exists_runsBetween hy zs
        rw [h] at ih
        rw [runsBetween_more hz hy ih, runsBetween_more hz hy h]
        rfl

theorem runsBetween_self : ∀ {w : List α}, w ≠ [] → (∀ x ∈ w, p x = false) → runsBetween p w = [w]
  | [], hw, _ => absurd rfl hw
  | [x], _, h => runsBetween_last (h x (by simp)) (by simp)
  | x :: y :: ys, _, h =>
    runsBetween_more (h x (by simp)) (h y (by simp))
      (runsBetween_self (by simp) fun z hz => h z (List.mem_cons_of_mem _ hz))

theorem runsBetween_map (f : β → α) : ∀ xs : List β,
    runsBetween p (xs.map f) = (runsBetween (p ∘ f) xs).map (List.map f)
  | [] => rfl
  | x :: xs => by
    have ih := runsBetween_map f xs
    cases hx : p (f x) with
    | true => rw [List.map_cons, runsBetween_skip hx, ih, runsBetween_skip (by exact hx)]
    | false =>
      cases xs with
      | nil => simp [runsBetween, hx]
      | cons y ys =>
        rw [List.map_cons] at ih
        cases hy : p (f y) with
        | true =>
          rw [List.map_cons, List.map_cons, runsBetween_last hx (by simp [hy]), ih,
            runsBetween_last (p := p ∘ f) hx (by simp [hy])]
          rfl
        | false =>
          obtain ⟨run, runs, hruns, -⟩ := exists_runsBetween (p := p ∘ f) hy ys
          rw [hruns, List.map_cons] at ih
          rw [List.map_cons, List.map_cons, runsBetween_more hx hy ih,
            runsBetween_more (p := p ∘ f) hx hy hruns]
          rfl

theorem runsBetween_congr {q : α → Bool} : ∀ {xs : List α}, (∀ x ∈ xs, p x = q x) →
    runsBetween p xs = runsBetween q xs
  | [], _ => rfl
  | [x], h => by simp [runsBetween, h x (by simp)]
  | x :: y :: ys, h => by
    have ih := runsBetween_congr fun z hz => h z (List.mem_cons_of_mem x hz)
    rw [runsBetween, runsBetween]
    simp only [ih, h x (by simp), h y (by simp)]

theorem runsBetween_skip_all {gap : List α} (h : ∀ x ∈ gap, p x = true) (rest : List α) :
    runsBetween p (gap ++ rest) = runsBetween p rest := by
  induction gap with
  | nil => rfl
  | cons x gap ih =>
    rw [List.cons_append, runsBetween_skip (h x (by simp)),
      ih fun y hy => h y (List.mem_cons_of_mem _ hy)]

theorem runsBetween_gap {gap : List α} (hne : gap ≠ []) (h : ∀ x ∈ gap, p x = true)
    (xs ys : List α) :
    runsBetween p (xs ++ (gap ++ ys)) = runsBetween p xs ++ runsBetween p ys := by
  obtain ⟨x, gap, rfl⟩ := List.exists_cons_of_ne_nil hne
  rw [List.cons_append, runsBetween_append (h x (by simp)),
    runsBetween_skip_all fun y hy => h y (List.mem_cons_of_mem _ hy)]

/-- **Cutting twice**: where the first cuts are among the second ones they make no difference. -/
theorem flatMap_runsBetween {q : α → Bool} (xs : List α) (h : ∀ x ∈ xs, q x = true → p x = true) :
    (runsBetween q xs).flatMap (runsBetween p) = runsBetween p xs := by
  induction hn : xs.length using Nat.strongRecOn generalizing xs with
  | _ n ih =>
    by_cases hcut : ∃ x ∈ xs, q x = true
    · obtain ⟨x, hx, hqx⟩ := hcut
      have hpx := h x hx hqx
      obtain ⟨u, v, rfl⟩ := List.append_of_mem hx
      rw [List.length_append, List.length_cons] at hn
      rw [runsBetween_append hqx, runsBetween_append hpx, List.flatMap_append,
        ih u.length (by omega) u (fun y hy => h y (by simp [hy])) rfl,
        ih v.length (by omega) v (fun y hy => h y (by simp [hy])) rfl]
    · cases xs with
      | nil => rfl
      | cons x xs =>
        rw [runsBetween_self (by simp) fun y hy => by simpa using fun hq => hcut ⟨y, hy, hq⟩]
        simp

end

/-! ## Reading a text field by field -/

/-- The text is empty or starts with a blank: whatever stands before it ends here. -/
def StartsBlank (s : Bytes) : Prop :=
  s = [] ∨ ∃ c t, isBlank c = true ∧ s = String.utf8EncodeChar c ++ t

/-- The text is not empty and holds no blank. -/
structure IsField (f : Bytes) : Prop where
  ne_nil : f ≠ []
  solid : ∀ c ∈ f.chars, isBlank c = false

theorem startsBlank_nil : StartsBlank [] := .inl rfl

theorem startsBlank_encode {c : Char} (hc : isBlank c = true) (t : Bytes) :
    StartsBlank (String.utf8EncodeChar c ++ t) :=
  .inr ⟨c, t, hc, rfl⟩

theorem runes_append_startsBlank (f : Bytes) {s : Bytes} (hs : StartsBlank s) :
    runes (f ++ s) = runes f ++ runes s := by
  rcases hs with rfl | ⟨c, t, -, rfl⟩
  · simp
  · rw [runes_append_encode, runes_encode_append]

theorem chars_append_startsBlank (f : Bytes) {s : Bytes} (hs : StartsBlank s) :
    chars (f ++ s) = chars f ++ chars s := by
  rw [chars, runes_append_startsBlank f hs, List.map_append]
  rfl

theorem chars_encode_append (c : Char) (s : Bytes) :
    chars (String.utf8EncodeChar c ++ s) = c :: chars s := by
  rw [chars, runes_encode_append]
  rfl

theorem chars_append_encode (u : Bytes) (c : Char) (s : Bytes) :
    chars (u ++ (String.utf8EncodeChar c ++ s)) = chars u ++ c :: chars s := by
  rw [chars, runes_append_encode, List.map_append]
  rfl

theorem isBlank_replacement : isBlank Rune.replacement = false := by decide

theorem eq_ofChar_of_blank {s : Bytes} {r : Rune} (hr : r ∈ s.runes) (h : isBlank r.char = true) :
    r = Rune.ofChar r.char := by
  refine eq_ofChar_of_ne hr fun hchar => ?_
  rw [hchar, isBlank_replacement] at h
  cases h

/-- What stands before the first blank of a text. -/
theorem exists_field_append (s : Bytes) :
    ∃ f t, s = f ++ t ∧ (∀ c ∈ f.chars, isBlank c = false) ∧ StartsBlank t := by
  induction hn : s.length using Nat.strongRecOn generalizing s with
  | _ n ih =>
    cases s with
    | nil => exact ⟨[], [], rfl, by simp [chars], startsBlank_nil⟩
    | cons b s =>
      obtain ⟨tail, rest, rfl, hbytes, hrunes⟩ := exists_runes_cons b s
      cases hblank : isBlank (Rune.first b (tail ++ rest)).char with
      | true =>
        have hr := eq_ofChar_of_blank (hrunes ▸ List.mem_cons_self) hblank
        rw [hr] at hbytes
        refine ⟨[], b :: (tail ++ rest), rfl, by simp [chars], .inr ⟨_, rest, hblank, ?_⟩⟩
        rw [← List.cons_append, ← hbytes]
        rfl
      | false =>
        obtain ⟨f, t, rfl, hf, ht⟩ := ih rest.length (by simp at hn; omega) rest rfl
        refine ⟨b :: tail ++ f, t, by simp, ?_, ht⟩
        -- the rune and the field behind it are read as they are read before the blank
        have hread : runes (b :: tail ++ f) = Rune.first b (tail ++ (f ++ t)) :: runes f := by
          rw [runes_append_startsBlank f ht, ← List.cons_append] at hrunes
          refine List.append_cancel_right (?_ : _ ++ runes t = _ ++ runes t)
          rw [← runes_append_startsBlank _ ht, List.append_assoc, hrunes]
          rfl
        intro c hc
        rw [chars, hread, List.map_cons, List.mem_cons] at hc
        rcases hc with rfl | hc
        · exact hblank
        · exact hf c hc

/-- **A text is read blank by blank and field by field.** -/
theorem field_induction {motive : Bytes → Prop} (nil : motive [])
    (blank : ∀ (c : Char) (s : Bytes), isBlank c = true → motive s →
      motive (String.utf8EncodeChar c ++ s))
    (field : ∀ f s : Bytes, IsField f → StartsBlank s → motive s → motive (f ++ s)) (s : Bytes) :
    motive s := by
  induction hn : s.length using Nat.strongRecOn generalizing s with
  | _ n ih =>
    obtain ⟨f, t, rfl, hf, ht⟩ := exists_field_append s
    cases f with
    | nil =>
      rcases ht with rfl | ⟨c, t, hc, rfl⟩
      · exact nil
      · have hpos := Rune.length_encode_pos c
        exact blank c t hc
          (ih t.length (by rw [List.nil_append, List.length_append] at hn; omega) t rfl)
    | cons b f =>
      exact field (b :: f) t ⟨by simp, hf⟩ ht (ih t.length (by simp at hn; omega) t rfl)

theorem field_cases (s : Bytes) : s = [] ∨
    (∃ c t, isBlank c = true ∧ s = String.utf8EncodeChar c ++ t) ∨
    ∃ f t, IsField f ∧ StartsBlank t ∧ s = f ++ t := by
  induction s using field_induction with
  | nil => exact .inl rfl
  | blank c s hc _ => exact .inr (.inl ⟨c, s, hc, rfl⟩)
  | field f s hf hs _ => exact .inr (.inr ⟨f, s, hf, hs, rfl⟩)

/-! ## Fields -/

@[simp] theorem fields_nil : fields [] = [] := rfl

theorem fields_blank {c : Char} (hc : isBlank c = true) (s : Bytes) :
    fields (String.utf8EncodeChar c ++ s) = fields s := by
  rw [fields, runes_encode_append, runsBetween_skip (by exact hc)]
  rfl

/-- **At a blank the fields can be counted apart.** -/
theorem fields_append_blank (s : Bytes) {c : Char} (hc : isBlank c = true) (t : Bytes) :
    fields (s ++ (String.utf8EncodeChar c ++ t)) = fields s ++ fields t := by
  rw [fields, runes_append_encode, runsBetween_append (by exact hc), List.map_append]
  rfl

theorem IsField.runes_ne_nil {f : Bytes} (hf : IsField f) : f.runes ≠ [] := by
  intro h
  have hback := ofRunes_runes f
  rw [h] at hback
  exact hf.ne_nil hback.symm

theorem IsField.chars_ne_nil {f : Bytes} (hf : IsField f) : f.chars ≠ [] :=
  fun h => hf.runes_ne_nil (List.map_eq_nil_iff.1 h)

theorem fields_self {f : Bytes} (hf : IsField f) : fields f = [f] := by
  rw [fields, runsBetween_self hf.runes_ne_nil fun r hr => hf.solid r.char (List.mem_map_of_mem hr)]
  simp

/-- **A field in front** is the first of the fields. -/
theorem fields_append {f s : Bytes} (hf : IsField f) (hs : StartsBlank s) :
    fields (f ++ s) = f :: fields s := by
  rcases hs with rfl | ⟨c, t, hc, rfl⟩
  · rw [List.append_nil, fields_self hf, fields_nil]
  · rw [fields_append_blank f hc, fields_self hf, fields_blank hc]
    rfl

/-- The characters of the fields are the runs of the characters. -/
theorem runsBetween_chars (s : Bytes) : runsBetween isBlank s.chars = s.fields.map chars := by
  induction s using field_induction with
  | nil => rfl
  | blank c s hc ih => rw [chars_encode_append, runsBetween_skip hc, ih, fields_blank hc]
  | field f s hf hs ih =>
    have hne : f.chars ≠ [] := hf.chars_ne_nil
    have hrun : runsBetween isBlank (f.chars ++ s.chars) =
        f.chars :: runsBetween isBlank s.chars := by
      rcases hs with rfl | ⟨c, t, hc, rfl⟩
      · simpa [chars] using runsBetween_self hne hf.solid
      · rw [chars_encode_append, runsBetween_append hc, runsBetween_self hne hf.solid,
          runsBetween_skip hc]
        rfl
    rw [chars_append_startsBlank f hs, hrun, fields_append hf hs, List.map_cons, ih]

theorem fields_ofChars (cs : List Char) : (ofChars cs).fields =
    (runsBetween isBlank cs).map ofChars := by
  rw [fields, runes_ofChars, runsBetween_map, List.map_map]
  refine congrArg₂ _ (funext fun run => ?_) rfl
  rw [Function.comp_apply, ofRunes, List.flatMap_map]
  rfl

/-- Every character of a text is a blank or stands in a field. -/
theorem mem_chars {s : Bytes} {c : Char} (hc : c ∈ s.chars) :
    isBlank c = true ∨ ∃ f ∈ s.fields, c ∈ f.chars := by
  induction s using field_induction with
  | nil => cases hc
  | blank d s hd ih =>
    rw [chars_encode_append, List.mem_cons] at hc
    rcases hc with rfl | hc
    · exact .inl hd
    · rw [fields_blank hd]
      exact ih hc
  | field f s hf hs ih =>
    rw [chars_append_startsBlank f hs, List.mem_append] at hc
    rw [fields_append hf hs]
    rcases hc with hc | hc
    · exact .inr ⟨f, by simp, hc⟩
    · rcases ih hc with hblank | ⟨g, hg, hcg⟩
      · exact .inl hblank
      · exact .inr ⟨g, List.mem_cons_of_mem _ hg, hcg⟩

theorem mem_chars_of_mem_fields {s f : Bytes} (hf : f ∈ s.fields) {c : Char} (hc : c ∈ f.chars) :
    c ∈ s.chars := by
  induction s using field_induction with
  | nil => cases hf
  | blank d s hd ih =>
    rw [fields_blank hd] at hf
    rw [chars_encode_append]
    exact List.mem_cons_of_mem _ (ih hf)
  | field g s hg hs ih =>
    rw [fields_append hg hs, List.mem_cons] at hf
    rw [chars_append_startsBlank g hs, List.mem_append]
    rcases hf with rfl | hf
    · exact .inl hc
    · exact .inr (ih hf)

theorem fields_ofChars_append {cs : List Char} (hcs : ∀ c ∈ cs, isBlank c = true) (t : Bytes) :
    fields (ofChars cs ++ t) = fields t := by
  induction cs with
  | nil => rfl
  | cons c cs ih =>
    rw [ofChars_cons, List.append_assoc, fields_blank (hcs c (by simp)),
      ih fun d hd => hcs d (List.mem_cons_of_mem _ hd)]

theorem fields_append_ofChars {cs : List Char} (hcs : ∀ c ∈ cs, isBlank c = true) (t : Bytes) :
    fields (t ++ ofChars cs) = fields t := by
  cases cs with
  | nil => rw [ofChars_nil, List.append_nil]
  | cons c cs =>
    have hrest := fields_ofChars_append (fun d hd => hcs d (List.mem_cons_of_mem _ hd)) []
    rw [List.append_nil] at hrest
    rw [ofChars_cons, fields_append_blank t (hcs c (by simp)), hrest, fields_nil, List.append_nil]

/-- The runes of a text that are blanks are written as their characters. -/
theorem ofRunes_blanks {s : Bytes} (rs : List Rune) (hsub : ∀ r ∈ rs, r ∈ s.runes)
    (h : ∀ r ∈ rs, isBlank r.char = true) :
    ∃ cs : List Char, ofRunes rs = ofChars cs ∧ ∀ c ∈ cs, isBlank c = true := by
  exact ⟨rs.map Rune.char, ofRunes_eq_ofChars fun r hr => eq_ofChar_of_blank (hsub r hr) (h r hr),
    by simpa using h⟩

theorem ofChars_chars_of_blank {s : Bytes} (h : ∀ c ∈ s.chars, isBlank c = true) :
    ofChars s.chars = s := by
  have hwritten : ∀ r ∈ s.runes, r = Rune.ofChar r.char :=
    fun r hr => eq_ofChar_of_blank hr (h r.char (List.mem_map_of_mem hr))
  rw [chars, ← ofRunes_eq_ofChars hwritten, ofRunes_runes]

/-- Trimming takes blanks from both ends of a text. -/
theorem exists_trim (s : Bytes) : ∃ front back : List Char,
    s = ofChars front ++ (s.trim ++ ofChars back) ∧
    (∀ c ∈ front, isBlank c = true) ∧ ∀ c ∈ back, isBlank c = true := by
  let blank := fun r : Rune => isBlank r.char
  obtain ⟨kept, hkept⟩ :
      ∃ kept, kept = ((s.runes.dropWhile blank).reverse.dropWhile blank).reverse :=
    ⟨_, rfl⟩
  have hsplit : s.runes = s.runes.takeWhile blank ++
      (kept ++ ((s.runes.dropWhile blank).reverse.takeWhile blank).reverse) := by
    rw [hkept, ← List.reverse_append, List.takeWhile_append_dropWhile, List.reverse_reverse,
      List.takeWhile_append_dropWhile]
  obtain ⟨front, hfront, hf⟩ := ofRunes_blanks (s := s)
    (s.runes.takeWhile blank) (fun r hr => List.takeWhile_subset _ hr)
    (fun r hr => List.mem_takeWhile_imp (p := blank) hr)
  obtain ⟨back, hback, hb⟩ := ofRunes_blanks (s := s)
    ((s.runes.dropWhile blank).reverse.takeWhile blank).reverse
    (fun r hr => by rw [hsplit]; simp [hr])
    (fun r hr => List.mem_takeWhile_imp (p := blank) (List.mem_reverse.1 hr))
  refine ⟨front, back, ?_, hf, hb⟩
  have htext := congrArg ofRunes hsplit
  rw [ofRunes_runes, ofRunes_append, ofRunes_append, hfront, hback, hkept] at htext
  exact htext

/-- **Trimming leaves the fields alone.** -/
theorem fields_trim (s : Bytes) : s.trim.fields = s.fields := by
  obtain ⟨front, back, hs, hfront, hback⟩ := exists_trim s
  conv_rhs => rw [hs]
  rw [fields_ofChars_append hfront, fields_append_ofChars hback]

theorem exists_runes_trim (s : Bytes) : ∃ front back : List Rune,
    s.runes = front ++ (s.trim.runes ++ back) ∧ (∀ r ∈ front, isBlank r.char = true) ∧
      ∀ r ∈ back, isBlank r.char = true := by
  obtain ⟨front, back, hs, hfront, hback⟩ := exists_trim s
  refine ⟨front.map Rune.ofChar, back.map Rune.ofChar, ?_, by simpa [Rune.ofChar] using hfront,
    by simpa [Rune.ofChar] using hback⟩
  conv_lhs => rw [hs]
  rw [runes_ofChars_append, runes_append_ofChars]

theorem chars_trim_infix (s : Bytes) : s.trim.chars <:+: s.chars := by
  obtain ⟨front, back, hs, -, -⟩ := exists_runes_trim s
  refine ⟨front.map Rune.char, back.map Rune.char, ?_⟩
  rw [chars, chars, hs]
  simp

theorem trim_ofChars_append {cs : List Char} (hcs : ∀ c ∈ cs, isBlank c = true) (t : Bytes) :
    (ofChars cs ++ t).trim = t.trim := by
  rw [trim, runes_ofChars_append, List.dropWhile_append_of_pos (by simpa [Rune.ofChar] using hcs)]
  rfl

theorem trim_append_ofChars {cs : List Char} (hcs : ∀ c ∈ cs, isBlank c = true) (t : Bytes) :
    (t ++ ofChars cs).trim = t.trim := by
  have hback : ∀ r ∈ cs.map Rune.ofChar, isBlank r.char = true := by simpa [Rune.ofChar] using hcs
  have hback' : ∀ r ∈ (cs.map Rune.ofChar).reverse, isBlank r.char = true := by simpa using hback
  rw [trim, trim, runes_append_ofChars, List.dropWhile_append]
  split
  · next hnone =>
    rw [List.isEmpty_iff] at hnone
    rw [hnone, List.dropWhile_eq_nil_iff.2 hback]
  · rw [List.reverse_append, List.dropWhile_append_of_pos hback']

/-- **What is trimmed stays as it is.** -/
theorem trim_trim (s : Bytes) : s.trim.trim = s.trim := by
  obtain ⟨front, back, hs, hfront, hback⟩ := exists_trim s
  conv_rhs => rw [hs, trim_ofChars_append hfront, trim_append_ofChars hback]

/-! ## Trimmed texts -/

/-- Neither the first nor the last character of the text is a blank. -/
structure IsTrimmed (s : Bytes) : Prop where
  head : ∀ c ∈ s.chars.head?, isBlank c = false
  last : ∀ c ∈ s.chars.getLast?, isBlank c = false

theorem length_trim_le (s : Bytes) : s.trim.length ≤ s.length := by
  obtain ⟨front, back, hs, -, -⟩ := exists_trim s
  have hlen := congrArg List.length hs
  rw [List.length_append, List.length_append] at hlen
  omega

theorem trim_of_isTrimmed {s : Bytes} (h : IsTrimmed s) : s.trim = s := by
  have hkeep : ∀ {rs : List Rune}, (∀ c ∈ (rs.map Rune.char).head?, isBlank c = false) →
      rs.dropWhile (fun r => isBlank r.char) = rs := by
    intro rs hrs
    cases rs with
    | nil => rfl
    | cons r rs => simp [hrs r.char rfl]
  have hlast : ∀ c ∈ (s.runes.reverse.map Rune.char).head?, isBlank c = false := by
    rw [List.map_reverse, List.head?_reverse]
    exact h.last
  rw [trim, hkeep h.head, hkeep hlast, List.reverse_reverse, ofRunes_runes]

/-- **A trimmed text has no blank at either end**: trimmed again, it would get shorter. -/
theorem isTrimmed_trim (s : Bytes) : IsTrimmed s.trim := by
  have hends : ∀ {c : Char}, isBlank c = true → ¬ [c] <+: s.trim.chars ∧
      ¬ [c] <:+ s.trim.chars := by
    intro c hc
    have hwritten : Rune.replacement ∉ [c] := by
      rintro (_ | ⟨_, hmem⟩)
      · rw [isBlank_replacement] at hc
        cases hc
      · cases hmem
    have hblank : ∀ d ∈ [c], isBlank d = true := by simpa using hc
    have hpos : 0 < (ofChars [c]).length := by simpa using Rune.length_encode_pos c
    have hshort : ∀ v : Bytes, v.length < s.trim.length → s.trim.trim ≠ v.trim := by
      intro v hlt heq
      have hle := length_trim_le v
      rw [← heq, trim_trim] at hle
      omega
    rw [← ofChars_prefix_iff hwritten, ← ofChars_suffix_iff hwritten]
    constructor
    · rintro ⟨v, hv⟩
      refine hshort v (by rw [← hv, List.length_append]; omega) ?_
      rw [← hv, trim_ofChars_append hblank]
    · rintro ⟨v, hv⟩
      refine hshort v (by rw [← hv, List.length_append]; omega) ?_
      rw [← hv, trim_append_ofChars hblank]
  constructor
  · intro c hc
    obtain ⟨rest, hrest⟩ := List.head?_eq_some_iff.1 hc
    exact Bool.eq_false_iff.2 fun hb => (hends hb).1 ⟨rest, hrest.symm⟩
  · intro c hc
    obtain ⟨front, hfront⟩ := List.getLast?_eq_some_iff.1 hc
    exact Bool.eq_false_iff.2 fun hb => (hends hb).2 ⟨front, hfront.symm⟩

end VarLint.Bytes
