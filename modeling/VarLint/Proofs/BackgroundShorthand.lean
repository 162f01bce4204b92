import VarLint.Proofs.LineLayout
import VarLint.Proofs.VariableTokens

/-!
# Background shorthands

What is left of a background when its positions, repetitions and images are deleted. An image runs
up to the last parenthesis of its line, so it covers what stands between.

* `takes_quiet`, `takes_side`, `takes_measure`, `takes_repeat`, `takes_image`: what one match takes
* `IsSolitary`, `fields_leftover_solitary`: a field without an image is deleted whole or left whole
* `uncovered`, `exists_behindCover`: the fields that no image covers, and the text they stand in
* `fields_leftover_line`, `fields_leftover_lines`: what is left of a line, and of all lines
* `background_keeps_uncovered`: which literals a background keeps, and when it passes
-/

namespace VarLint.Value

open Regex

/-! ## Where nothing is taken -/

/-- The keywords of positions. -/
def sides : List String := ["top", "left", "center", "bottom", "right"]

/-- The keywords of repetitions. -/
def repetitions : List String := ["repeat", "no-repeat"]

/-- The words with which a part of a background starts. -/
def openers : List String := sides ++ ["repeat", "no-repeat", "url("]

/-- No part of a background starts here. -/
def IsQuiet (rs : List Rune) : Prop :=
  (∀ r ∈ rs.head?, r.char.isDigit = false) ∧ ∀ k ∈ openers, ¬ k.toList <+: rs.map Rune.char

section

variable {p q : Cursor} {w rest : List Rune}

theorem ends_position (p : Cursor) : position.ends p = (Regex.choice (sides.map .literal)).ends p ++
    (Regex.seq (.plus .digit) (.alt (.plus .wordChar) (.literal "%"))).ends p := by
  have hnone : (Regex.choice []).ends p = [] := ends_choice_none [] (by simp)
  simp only [position, sides, List.map_cons, List.map_nil, ends_choice_cons, hnone, List.append_nil,
    List.append_assoc]

theorem ends_measure_none (h : ∀ r ∈ p.after.head?, r.char.isDigit = false) :
    (Regex.seq (.plus .digit) (.alt (.plus .wordChar) (.literal "%"))).ends p = [] := by
  rw [ends, digit, ends_plus_char_none (by simpa using h), List.flatMap_nil]

theorem IsQuiet.ends_position (h : IsQuiet p.after) : position.ends p = [] := by
  rw [Value.ends_position, ends_measure_none h.1, ends_choice_none sides fun k hk => ?_]
  · rfl
  · exact h.2 k (List.mem_append_left _ hk)

theorem past_repeat_none (h : ∀ k ∈ repetitions, ¬ k.toList <+: p.after.map Rune.char) :
    (Regex.alt (.literal "repeat") (.literal "no-repeat")).past p = p :=
  past_of_ends_nil (ends_choice_none repetitions h)

theorem IsQuiet.past_repeat (h : IsQuiet p.after) :
    (Regex.alt (.literal "repeat") (.literal "no-repeat")).past p = p := by
  refine past_repeat_none fun k hk => h.2 k ?_
  exact List.mem_append_right _ (List.mem_append_left ["url("] hk)

theorem past_image_none (h : ¬ "url(".toList <+: p.after.map Rune.char) : image.past p = p := by
  refine past_of_ends_nil ?_
  rw [image, ends, ends_literal, if_neg (by rwa [List.isPrefixOf_iff_prefix]), List.flatMap_nil]

theorem IsQuiet.past_image (h : IsQuiet p.after) : image.past p = p :=
  past_image_none (h.2 "url(" (by decide))

/-- Behind the positions come a repetition and an image, if they are there. -/
theorem head?_backgroundPart (h : ((Regex.star position).ends p).head? = some q) :
    (backgroundPart.ends p).head? =
      some (image.past ((Regex.alt (.literal "repeat") (.literal "no-repeat")).past q)) := by
  rw [backgroundPart, head?_seq]
  cases hends : (Regex.star position).ends p with
  | nil => rw [hends] at h; cases h
  | cons q' more =>
    obtain rfl : q' = q := by simpa [hends] using h
    rw [List.findSome?_cons, head?_seq_opt]

theorem takes_quiet {rs : List Rune} (h : IsQuiet rs) : backgroundPart.Takes 0 rs := by
  refine takes_of_head? (by simp) fun before => ?_
  have hstar : ((Regex.star position).ends ⟨0, before, rs⟩).head? = some ⟨0, before, rs⟩ := by
    rw [ends_star_none (IsQuiet.ends_position h), List.head?_cons]
  rw [head?_backgroundPart hstar, IsQuiet.past_repeat h, IsQuiet.past_image h, Cursor.move_zero]

/-! ## What a position and a repetition take -/

/-- A position before a quiet place is taken alone. -/
theorem takes_position (hw : w ≠ []) (hrest : IsQuiet rest)
    (h : ∀ before, (position.ends ⟨0, before, w ++ rest⟩).head? =
      some ((⟨0, before, w ++ rest⟩ : Cursor).move w.length)) :
    backgroundPart.Takes w.length (w ++ rest) := by
  refine takes_of_head? (by simp) fun before => ?_
  have hquiet : IsQuiet ((⟨0, before, w ++ rest⟩ : Cursor).move w.length).after := by
    simpa using hrest
  have hindex : (0 : Nat) < ((⟨0, before, w ++ rest⟩ : Cursor).move w.length).index := by
    rw [Cursor.index_move (by simp)]
    have := List.length_pos_iff.2 hw
    simpa using this
  rw [head?_backgroundPart (head?_star_once (h before) (by simp [hw]) hindex hquiet.ends_position),
    hquiet.past_repeat, hquiet.past_image]

/-- A word at the start of another word and what follows it has the same first letters. -/
theorem take_eq_of_starts {j k v : List Char} {n : Nat} (hj : n ≤ j.length) (hk : n ≤ k.length)
    (h : j <+: k ++ v) : j.take n = k.take n := by
  obtain ⟨t, ht⟩ := h
  have htake := congrArg (List.take n) ht
  rwa [List.take_append_of_le_length hj, List.take_append_of_le_length hk] at htake

theorem head?_position_side {k : String} (hk : k ∈ sides) (hp : p.after = w ++ rest)
    (hw : w.map Rune.char = k.toList) : (position.ends p).head? = some (p.move w.length) := by
  have hchars : p.after.map Rune.char = k.toList ++ rest.map Rune.char := by
    rw [hp, List.map_append, hw]
  -- the words start with different letters
  have hfirst : ∀ k ∈ sides, ∀ j ∈ sides, j.toList.take 1 = k.toList.take 1 → j = k := by decide
  have hlong : ∀ k ∈ sides, 1 ≤ k.toList.length := by decide
  have hlen : w.length = k.toList.length := by rw [← hw, List.length_map]
  have hhead := head?_choice sides hk (hchars ▸ List.prefix_append _ _) fun j hj hpre =>
    hfirst k hk j hj (take_eq_of_starts (hlong j hj) (hlong k hk) (hchars ▸ hpre))
  rw [ends_position, List.head?_append, hhead, hlen]
  rfl

theorem head?_measure {whole unit : List Rune} (hp : p.after = whole ++ (unit ++ rest))
    (hne : whole ≠ []) (hwhole : ∀ r ∈ whole, r.char.isDigit = true)
    (hhead : ∀ r ∈ unit.head?, r.char.isDigit = false) (hune : unit ≠ [])
    (hunit : ((Regex.alt (.plus .wordChar) (.literal "%")).ends (p.move whole.length)).head? =
      some ((p.move whole.length).move unit.length)) :
    (position.ends p).head? = some (p.move (whole ++ unit).length) := by
  have hstop : ∀ r ∈ (unit ++ rest).head?, r.char.isDigit = false := by
    obtain ⟨x, more, rfl⟩ := List.exists_cons_of_ne_nil hune
    simpa using hhead
  obtain ⟨more, hmore⟩ := ends_plus_char_run (k := .ofItem CharClass.digitItem) hp hne
    (by simpa using hwhole) (by simpa using hstop)
  have hsides : (Regex.choice (sides.map .literal)).ends p = [] := by
    refine ends_choice_none sides fun k hk hpre => ?_
    obtain ⟨x, ws, rfl⟩ := List.exists_cons_of_ne_nil hne
    have halpha : ∀ k ∈ sides, ∀ c ∈ k.toList, c.isDigit = false := forall_mem_words (by decide)
    have hkne : ∀ k ∈ sides, k.toList ≠ [] := by decide
    obtain ⟨c, cs, hkc⟩ := List.exists_cons_of_ne_nil (hkne k hk)
    rw [hp, hkc] at hpre
    have hc := halpha k hk c (by simp [hkc])
    rw [(List.cons_prefix_cons.1 hpre).1, hwhole x (by simp)] at hc
    cases hc
  rw [ends_position, hsides, List.nil_append, head?_seq, digit, hmore, List.findSome?_cons, hunit]
  simp

theorem takes_side {k : String} (hk : k ∈ sides) (hw : w.map Rune.char = k.toList)
    (hrest : IsQuiet rest) :
    backgroundPart.Takes w.length (w ++ rest) := by
  have hne : ∀ k ∈ sides, k.toList ≠ [] := by decide
  refine takes_position ?_ hrest fun before => head?_position_side hk rfl hw
  rintro rfl
  exact hne k hk hw.symm

/-- Digits with a word or a percent sign behind them. -/
theorem takes_measure {whole unit : List Rune} (hne : whole ≠ [])
    (hwhole : ∀ r ∈ whole, r.char.isDigit = true) (hune : unit ≠ [])
    (hunit : (∀ r ∈ unit, r.char.isAlpha = true) ∨ unit.map Rune.char = ['%'])
    (hword : ∀ r ∈ rest.head?, isWordChar r.char = false) (hrest : IsQuiet rest) :
    backgroundPart.Takes (whole ++ unit).length ((whole ++ unit) ++ rest) := by
  refine takes_position (by simp [hne]) hrest fun before => ?_
  have hp : (⟨0, before, (whole ++ unit) ++ rest⟩ : Cursor).after = whole ++ (unit ++ rest) := by
    simp
  have hafter : ((⟨0, before, (whole ++ unit) ++ rest⟩ : Cursor).move whole.length).after =
      unit ++ rest := by
    simp
  rcases hunit with halpha | hpercent
  · have hrun : ∀ r ∈ unit, isWordChar r.char = true :=
      fun r hr => isWordChar_of_isAlpha (halpha r hr)
    obtain ⟨more, hmore⟩ := ends_plus_char_run (k := .ofItem CharClass.wordItem) hafter hune
      (by simpa using hrun) (by simpa using hword)
    refine head?_measure hp hne hwhole (fun r hr => ?_) hune ?_
    · exact isDigit_of_isAlpha (halpha r (List.mem_of_mem_head? hr))
    · rw [ends, wordChar, hmore]
      rfl
  · obtain ⟨x, rfl, hx⟩ : ∃ x, unit = [x] ∧ x.char = '%' := by
      obtain ⟨x, more, rfl, hx, hmore⟩ := List.map_eq_cons_iff.1 hpercent
      exact ⟨x, by rw [List.map_eq_nil_iff.1 hmore], hx⟩
    refine head?_measure hp hne hwhole (by simp [hx]) hune ?_
    have hnone : (Regex.plus .wordChar).ends
        ((⟨0, before, (whole ++ [x]) ++ rest⟩ : Cursor).move whole.length) = [] := by
      rw [wordChar]
      refine ends_plus_char_none ?_
      rw [hafter]
      simp [hx]
      decide
    rw [ends, hnone, List.nil_append, ends_literal, hafter]
    simp [hx]

theorem takes_repeat {k : String} (hk : k ∈ repetitions) (hw : w.map Rune.char = k.toList)
    (hrest : IsQuiet rest) : backgroundPart.Takes w.length (w ++ rest) := by
  refine takes_of_head? (by simp) fun before => ?_
  have hchars : (w ++ rest).map Rune.char = k.toList ++ rest.map Rune.char := by
    rw [List.map_append, hw]
  have hlen : w.length = k.toList.length := by rw [← hw, List.length_map]
  have hlong : ∀ k ∈ sides ++ repetitions, 2 ≤ k.toList.length := by decide
  have hklong := hlong k (List.mem_append_right _ hk)
  -- `right` starts with the letter of `repeat`, so the first two are compared
  have htwo : ∀ k ∈ repetitions, ∀ j ∈ sides ++ repetitions, j.toList.take 2 = k.toList.take 2 →
      j = k := by
    decide
  have hsame : ∀ j ∈ sides ++ repetitions, j.toList <+: (w ++ rest).map Rune.char → j = k :=
    fun j hj hpre =>
    htwo k hk j hj (take_eq_of_starts (hlong j hj) hklong (hchars ▸ hpre))
  have hstart : position.ends ⟨0, before, w ++ rest⟩ = [] := by
    have hapart : ∀ k ∈ repetitions, k ∉ sides := by decide
    have hdigit : ∀ k ∈ repetitions, ∀ c ∈ k.toList, c.isDigit = false :=
      forall_mem_words (by decide)
    rw [ends_position, ends_measure_none, ends_choice_none sides]
    · rfl
    · intro j hj hpre
      exact hapart k hk (hsame j (List.mem_append_left _ hj) hpre ▸ hj)
    · intro r hr
      refine hdigit k hk r.char ?_
      obtain ⟨c, cs, hkc⟩ := List.exists_cons_of_ne_nil
        (List.length_pos_iff.1 (by omega) : k.toList ≠ [])
      obtain ⟨x, ws, rfl, hx, -⟩ := List.map_eq_cons_iff.1 (hw.trans hkc)
      obtain rfl : x = r := by simpa using hr
      simp [hkc, hx]
  have hpast : (Regex.alt (.literal "repeat") (.literal "no-repeat")).past ⟨0, before, w ++ rest⟩ =
      (⟨0, before, w ++ rest⟩ : Cursor).move w.length := by
    rw [hlen]
    exact past_of_head?
      (head?_choice repetitions hk (hchars ▸ List.prefix_append _ _) fun j hj hpre =>
      hsame j (List.mem_append_right _ hj) hpre)
  have hquiet : IsQuiet ((⟨0, before, w ++ rest⟩ : Cursor).move w.length).after := by
    simpa using hrest
  rw [head?_backgroundPart (by rw [ends_star_none hstart]; rfl), hpast, hquiet.past_image]

/-! ## What an image takes -/

/-- **An image takes everything up to the last parenthesis of its line.** -/
theorem past_image {name inner z : List Rune} {x : Rune}
    (hp : p.after = name ++ (inner ++ x :: (z ++ rest)))
    (hname : name.map Rune.char = "url(".toList) (hinner : inner ≠ []) (hx : x.char = ')')
    (hline : ∀ r ∈ inner ++ x :: z, r.char ≠ '\n') (hz : ∀ r ∈ z, r.char ≠ ')')
    (hrest : ∀ r ∈ rest.head?, r.char = '\n') :
    image.past p = p.move (name ++ (inner ++ [x])).length := by
  have hlen : name.length = 4 := by rw [← List.length_map (f := Rune.char), hname]; rfl
  have hpre : "url(".toList.isPrefixOf (p.after.map Rune.char) = true := by
    rw [List.isPrefixOf_iff_prefix, hp, List.map_append, hname]
    exact List.prefix_append _ _
  have hafter : (p.move 4).after = (inner ++ x :: z) ++ rest := by
    rw [Cursor.after_move, hp, ← hlen, List.drop_left]
    simp
  have hrun : run .anyButNewline (p.move 4).after = (inner ++ x :: z).length := by
    rw [hafter, run_append (by simpa using hline) (by simpa using hrest)]
  obtain ⟨m, hm⟩ : ∃ m, inner.length = m + 1 :=
    ⟨inner.length - 1, by have := List.length_pos_iff.2 hinner; omega⟩
  have hbound : (inner ++ x :: z).length - 1 = m + 1 + z.length := by
    rw [List.length_append, List.length_cons, hm]
    omega
  refine past_of_head? ?_
  rw [image, head?_seq, ends_literal, if_pos hpre, List.findSome?_singleton, head?_seq,
    show "url(".toList.length = 4 from rfl, ends_plus_char, hrun, if_neg (by simp), hbound,
    List.findSome?_map]
  refine findSome?_downFrom (m := m) (by omega) ?_ fun i hi hn => ?_
  · have hclose : ((p.move 4).move (m + 1)).after = x :: (z ++ rest) := by
      rw [Cursor.after_move, hafter, ← hm, List.append_assoc, List.drop_left, List.cons_append]
    simp only [Function.comp_apply]
    rw [ends_literal, hclose]
    simp [hx, hlen, hm, Nat.add_assoc]
  · have hlate : ((p.move 4).move (i + 1)).after = (z ++ rest).drop (i - m - 1) := by
      rw [Cursor.after_move, hafter, List.append_assoc, List.cons_append,
        show i + 1 = inner.length + (1 + (i - m - 1)) by omega, ← List.drop_drop, List.drop_left,
        ← List.drop_drop]
      rfl
    simp only [Function.comp_apply]
    rw [ends_literal, hlate, if_neg]
    · rfl
    · rw [List.isPrefixOf_iff_prefix]
      intro hclose
      -- what stands there belongs to `z`, or starts the next line
      cases hd : (z ++ rest).drop (i - m - 1) with
      | nil => rw [hd] at hclose; simp at hclose
      | cons y more =>
        rw [hd] at hclose
        have hy : ')' = y.char := (List.cons_prefix_cons.1 hclose).1
        rw [List.drop_append] at hd
        cases hdz : z.drop (i - m - 1) with
        | nil =>
          have hzero : i - m - 1 - z.length = 0 := by omega
          rw [hdz, List.nil_append, hzero, List.drop_zero] at hd
          have hnewline := hrest y (by simp [hd])
          rw [← hy] at hnewline
          exact absurd hnewline (by decide)
        | cons y' more' =>
          rw [hdz, List.cons_append, List.cons.injEq] at hd
          have hmem : y ∈ z.drop (i - m - 1) := by simp [hdz, hd.1]
          exact hz y (List.mem_of_mem_drop hmem) hy.symm

theorem takes_image {name inner z : List Rune} {x : Rune}
    (hname : name.map Rune.char = "url(".toList) (hinner : inner ≠ []) (hx : x.char = ')')
    (hline : ∀ r ∈ inner ++ x :: z, r.char ≠ '\n') (hz : ∀ r ∈ z, r.char ≠ ')')
    (hrest : ∀ r ∈ rest.head?, r.char = '\n') :
    backgroundPart.Takes (name ++ (inner ++ [x])).length
      ((name ++ (inner ++ [x])) ++ (z ++ rest)) := by
  have hafter : (name ++ (inner ++ [x])) ++ (z ++ rest) = name ++ (inner ++ x :: (z ++ rest)) := by
    simp
  have hchars : ((name ++ (inner ++ [x])) ++ (z ++ rest)).map Rune.char =
      "url(".toList ++ (inner ++ x :: (z ++ rest)).map Rune.char := by
        rw [hafter, List.map_append, hname]
  -- no position and no repetition starts with the letter of an image
  have hother : ∀ k ∈ sides ++ repetitions,
      ¬ k.toList <+: ((name ++ (inner ++ [x])) ++ (z ++ rest)).map Rune.char := by
    have hletter : ∀ k ∈ sides ++ repetitions,
        1 ≤ k.toList.length ∧ k.toList.take 1 ≠ "url(".toList.take 1 := by decide
    intro k hk hpre
    exact (hletter k hk).2 (take_eq_of_starts (hletter k hk).1 (by decide) (hchars ▸ hpre))
  refine takes_of_head? (by simp) fun before => ?_
  have hposition : position.ends ⟨0, before, (name ++ (inner ++ [x])) ++ (z ++ rest)⟩ = [] := by
    rw [ends_position, ends_measure_none, ends_choice_none sides]
    · rfl
    · exact fun k hk => hother k (List.mem_append_left _ hk)
    · intro y hy
      have hhead := congrArg List.head? hchars
      rw [List.head?_map, Option.mem_def.1 hy, Option.map_some] at hhead
      obtain hu : y.char = 'u' := by simpa using hhead
      rw [hu]
      rfl
  have hrepeat := past_repeat_none (p := ⟨0, before, (name ++ (inner ++ [x])) ++ (z ++ rest)⟩)
    fun k hk => hother k (List.mem_append_right _ hk)
  rw [head?_backgroundPart (by rw [ends_star_none hposition]; rfl), hrepeat,
    past_image hafter hname hinner hx hline hz hrest]

end

/-! ## Kinds of fields -/

/-- A field that may stay literal in a background. -/
inductive IsStructural (f : Bytes) : Prop
  | word {k : String} (hk : k ∈ sides ++ ["repeat", "no-repeat"]) (hf : f.chars = k.toList)
  | measure {digits unit : List Char} (hne : digits ≠ []) (hdigits : ∀ c ∈ digits, c.isDigit = true)
      (hune : unit ≠ []) (hunit : (∀ c ∈ unit, c.isAlpha = true) ∨ unit = ['%'])
      (hf : f.chars = digits ++ unit)
  | image {text : List Char} (hne : text ≠ [])
      (htext : ∀ c ∈ text, isQuote c = false ∧ c ≠ '(' ∧ c ≠ ')')
      (hf : f.chars = "url(".toList ++ (text ++ [')']))

/-- Without digits and words that start a part. -/
def isPlain (f : Bytes) : Bool :=
  f.chars.all (fun c => !c.isDigit) &&
    (sides ++ ["repeat", "url("]).all fun k => !decide (k.toList <:+: f.chars)

/-- The field starts as an image does. -/
def isImage (f : Bytes) : Bool := "url(".toList.isPrefixOf f.chars

section

variable {f s : Bytes}

theorem isPlain_iff (f : Bytes) : isPlain f = true ↔ (∀ c ∈ f.chars, c.isDigit = false) ∧
    ∀ k ∈ sides ++ ["repeat", "url("], ¬ k.toList <:+: f.chars := by
  simp only [isPlain, Bool.and_eq_true, List.all_eq_true, Bool.not_eq_true',
    decide_eq_false_iff_not]

theorem isPlain_of_infix_chars {g : Bytes} (hf : isPlain f = true) (h : g.chars <:+: f.chars) :
    isPlain g = true := by
  rw [isPlain_iff] at hf ⊢
  exact ⟨fun c hc => hf.1 c (h.subset hc), fun k hk hin => hf.2 k hk (hin.trans h)⟩

theorem isImage_of_isPlain (hf : isPlain f = true) : isImage f = false := by
  by_contra h
  rw [Bool.not_eq_false, isImage, List.isPrefixOf_iff_prefix] at h
  exact ((isPlain_iff f).1 hf).2 "url(" (by decide) h.isInfix

theorem IsStructural.isPlain (hf : IsStructural f) : isPlain f = false := by
  by_contra h
  rw [Bool.not_eq_false, isPlain_iff] at h
  cases hf with
  | @word k hk hf =>
    rw [hf] at h
    have hall : ∀ k ∈ sides ++ ["repeat", "no-repeat"], ∃ j ∈ sides ++ ["repeat", "url("],
        j.toList <:+: k.toList := by decide
    obtain ⟨j, hj, hin⟩ := hall k hk
    exact h.2 j hj hin
  | @measure digits unit hne hdigits hune hunit hf =>
    obtain ⟨c, more, hc⟩ := List.exists_cons_of_ne_nil hne
    have hdigit := h.1 c (by simp [hf, hc])
    rw [hdigits c (by simp [hc])] at hdigit
    cases hdigit
  | @image text hne htext hf =>
    refine h.2 "url(" (by decide) ?_
    rw [hf]
    exact (List.prefix_append _ _).isInfix

/-- Only images have a parenthesis. -/
theorem IsStructural.image_or_no_paren (hf : IsStructural f) :
    (∃ text, text ≠ [] ∧ (∀ c ∈ text, isQuote c = false ∧ c ≠ '(' ∧ c ≠ ')') ∧
      f.chars = "url(".toList ++ (text ++ [')'])) ∨ (isImage f = false ∧ ')' ∉ f.chars) := by
  cases hf with
  | @word k hk hf =>
    right
    rw [isImage, hf]
    have hall : ∀ k ∈ sides ++ ["repeat", "no-repeat"],
        "url(".toList.isPrefixOf k.toList = false ∧ ')' ∉ k.toList := by decide
    exact hall k hk
  | @measure digits unit hne hdigits hune hunit hf =>
    right
    rw [isImage, hf]
    constructor
    · obtain ⟨c, more, hc⟩ := List.exists_cons_of_ne_nil hne
      have hdigit := hdigits c (by simp [hc])
      by_contra h
      rw [Bool.not_eq_false, List.isPrefixOf_iff_prefix, hc] at h
      rw [← (List.cons_prefix_cons.1 h).1] at hdigit
      exact absurd hdigit (by decide)
    · intro hmem
      rcases List.mem_append.1 hmem with hmem | hmem
      · exact absurd (hdigits _ hmem) (by decide)
      · rcases hunit with halpha | rfl
        · exact absurd (halpha _ hmem) (by decide)
        · exact absurd hmem (by decide)
  | @image text hne htext hf => exact .inl ⟨text, hne, htext, hf⟩

theorem isBlank_of_mem_openers : ∀ k ∈ openers, ∀ c ∈ k.toList, isBlank c = false :=
  forall_mem_words (by decide)

theorem isQuiet_of_startsBlank (hs : Bytes.StartsBlank s) : IsQuiet s.runes := by
  have hblank := isBlank_of_startsBlank hs
  refine ⟨fun r hr => isDigit_of_not_word (notWord_of_startsBlank hs r hr), fun k hk hpre => ?_⟩
  have hne : ∀ k ∈ openers, k.toList ≠ [] := by decide
  have hnil : k.toList <+: [] := prefix_of_prefix_append (q := fun c => !isBlank c)
    (fun c hc => by simp [isBlank_of_mem_openers k hk c hc]) (v := s.runes.map Rune.char)
    (by simpa [List.head?_map] using hblank) (by simpa using hpre)
  exact hne k hk (List.prefix_nil.1 hnil)

theorem backgroundPart_keepsBlanks : backgroundPart.KeepsBlanks := by
  intro c s hc
  rw [← Bytes.runes_encode_append]
  exact takes_quiet (isQuiet_of_startsBlank (Bytes.startsBlank_encode hc s))

theorem takes_nothing_of_isPlain (hf : isPlain f = true) (hs : Bytes.StartsBlank s)
    {u v : List Rune} {x : Rune} (hx : f.runes = u ++ x :: v) :
    backgroundPart.Takes 0 (x :: v ++ s.runes) := by
  obtain ⟨hdigit, hwords⟩ := (isPlain_iff f).1 hf
  have hchars : f.chars = u.map Rune.char ++ (x :: v).map Rune.char := by
    rw [Bytes.chars, hx, List.map_append]
  refine takes_quiet ⟨by simpa using hdigit x.char (by rw [hchars]; simp), fun k hk hpre => ?_⟩
  -- every opener holds one of the words that a plain field does not
  have hholds : ∀ k ∈ openers, ∃ j ∈ sides ++ ["repeat", "url("],
      j.toList <:+: k.toList := by decide
  rw [List.map_append] at hpre
  have hinside := prefix_of_prefix_append (q := fun c => !isBlank c)
    (fun c hc => by simp [isBlank_of_mem_openers k hk c hc])
    (by simpa [List.head?_map] using isBlank_of_startsBlank hs) hpre
  obtain ⟨j, hj, hin⟩ := hholds k hk
  refine hwords j hj (hin.trans ?_)
  rw [hchars]
  exact hinside.isInfix.trans (List.suffix_append _ _).isInfix

theorem IsStructural.takes (hf : IsStructural f) (himage : isImage f = false)
    (hs : Bytes.StartsBlank s) :
    backgroundPart.Takes f.runes.length (f.runes ++ s.runes) := by
  have hquiet := isQuiet_of_startsBlank hs
  cases hf with
  | @word k hk hf =>
    rcases List.mem_append.1 hk with hk | hk
    · exact takes_side hk hf hquiet
    · exact takes_repeat hk hf hquiet
  | @measure digits unit hne hdigits hune hunit hf =>
    obtain ⟨w, v, hsplit, rfl, rfl⟩ := List.map_eq_append_iff.1 hf
    rw [hsplit]
    refine takes_measure (by simpa using hne) (by simpa using hdigits) (by simpa using hune) ?_
      (notWord_of_startsBlank hs) hquiet
    simpa using hunit
  | @image text hne htext hf =>
    rw [isImage, hf] at himage
    exact absurd himage (by simp)

end

/-! ## What an image covers -/

/-- What stands behind the last parenthesis of a field. -/
def behindParen (f : Bytes) : Bytes :=
  Bytes.ofRunes (f.runes.reverse.takeWhile fun r => r.char != ')').reverse

/-- What stands behind the last parenthesis of a row of fields. -/
def behindCover : List Bytes → List Bytes
  | [] => []
  | f :: fs =>
    if fs.any fun g => g.chars.contains ')' then behindCover fs
    else if (behindParen f).isEmpty then fs
    else behindParen f :: fs

/-- The fields of a line that no image covers. The first image covers all up to the last
parenthesis. -/
def uncovered : List Bytes → List Bytes
  | [] => []
  | f :: fs => if isImage f then behindCover (f :: fs) else f :: uncovered fs

section

variable {f s : Bytes} {fs : List Bytes}

theorem behindParen_eq {u z : Bytes} (hf : f = u ++ (String.utf8EncodeChar ')' ++ z))
    (hz : ')' ∉ z.chars) :
    behindParen f = z := by
  have hz' : ∀ r ∈ z.runes.reverse, (r.char != ')') = true := by
    intro r hr
    rw [bne_iff_ne]
    rintro h
    exact hz (h ▸ List.mem_map_of_mem (List.mem_reverse.1 hr))
  rw [behindParen, hf, Bytes.runes_append_encode, List.reverse_append, List.reverse_cons,
    List.append_assoc, List.takeWhile_append_of_pos hz']
  simp [Rune.ofChar]

theorem behindParen_of_not_mem (hf : ')' ∉ f.chars) : behindParen f = f := by
  have hall : ∀ r ∈ f.runes.reverse, (r.char != ')') = true := by
    intro r hr
    rw [bne_iff_ne]
    rintro h
    exact hf (h ▸ List.mem_map_of_mem (List.mem_reverse.1 hr))
  rw [behindParen, List.takeWhile_eq_self_iff.2 hall, List.reverse_reverse, Bytes.ofRunes_runes]

/-- A text with a parenthesis is cut at its last one. -/
theorem exists_last_paren (h : ')' ∈ f.chars) :
    ∃ u z, f = u ++ (String.utf8EncodeChar ')' ++ z) ∧ ')' ∉ z.chars := by
  have hlast : ∀ rs : List Rune, (∃ r ∈ rs, r.char = ')') →
      ∃ a x b, rs = a ++ x :: b ∧ x.char = ')' ∧ ∀ r ∈ b, r.char ≠ ')' := by
    intro rs
    induction rs with
    | nil => simp
    | cons y rs ih =>
      rintro ⟨r, hr, hchar⟩
      by_cases hlater : ∃ q ∈ rs, q.char = ')'
      · obtain ⟨a, x, b, rfl, hx, hb⟩ := ih hlater
        exact ⟨y :: a, x, b, rfl, hx, hb⟩
      · push Not at hlater
        rcases List.mem_cons.1 hr with rfl | hr
        · exact ⟨[], r, rs, rfl, hchar, hlater⟩
        · exact absurd hchar (hlater r hr)
  obtain ⟨a, x, b, hsplit, hx, hb⟩ := hlast f.runes (List.mem_map.1 h)
  obtain ⟨t, hft, ht⟩ := Bytes.exists_of_runes_eq_append hsplit
  obtain ⟨z, rfl, hz⟩ := Bytes.exists_of_runes_eq_append (a := [x]) (b := b) ht
  have hparen : x = Rune.ofChar ')' := by
    rcases Bytes.eq_ofChar_or_malformed (s := f) (r := x) (by simp [hsplit]) with hof | ⟨lead, rfl⟩
    · rw [hof, hx]
    · exact absurd hx (by simp [Rune.malformed]; decide)
  refine ⟨Bytes.ofRunes a, z, ?_, ?_⟩
  · rw [hft, hparen]
    rfl
  · rw [Bytes.chars, hz]
    simpa using hb

theorem mem_paren_iff : ')' ∈ s.chars ↔ (s.fields.any fun g => g.chars.contains ')') = true := by
  rw [List.any_eq_true]
  constructor
  · intro h
    rcases Bytes.mem_chars h with hblank | ⟨g, hg, hc⟩
    · exact absurd hblank (by decide)
    · exact ⟨g, hg, by simpa using hc⟩
  · rintro ⟨g, hg, hc⟩
    exact Bytes.mem_chars_of_mem_fields hg (by simpa using hc)

/-- **A text behind its last parenthesis** has the fields that stand behind the cover. -/
theorem exists_behindCover (h : ')' ∈ s.chars) :
    ∃ u z, s = u ++ (String.utf8EncodeChar ')' ++ z) ∧ ')' ∉ z.chars ∧
      z.fields = behindCover s.fields := by
  induction s using Bytes.field_induction with
  | nil => cases h
  | blank c s hc ih =>
    rw [Bytes.chars_encode_append, List.mem_cons] at h
    obtain ⟨u, z, rfl, hz, hfields⟩ :=
      ih (h.resolve_left (by rintro rfl; exact absurd hc (by decide)))
    exact ⟨String.utf8EncodeChar c ++ u, z, by simp, hz, by rw [Bytes.fields_blank hc, hfields]⟩
  | field f s hf hs ih =>
    rw [Bytes.fields_append hf hs, behindCover]
    by_cases hlater : ')' ∈ s.chars
    · obtain ⟨u, z, htext, hz, hfields⟩ := ih hlater
      rw [if_pos (mem_paren_iff.1 hlater)]
      exact ⟨f ++ u, z, by rw [htext, List.append_assoc], hz, hfields⟩
    · rw [Bytes.chars_append_startsBlank f hs, List.mem_append] at h
      obtain ⟨u, z, htext, hz⟩ := exists_last_paren (h.resolve_right hlater)
      rw [if_neg (fun hany => hlater (mem_paren_iff.2 hany)), behindParen_eq htext hz]
      refine ⟨u, z ++ s, by rw [htext]; simp, ?_, ?_⟩
      · rw [Bytes.chars_append_startsBlank z hs, List.mem_append]
        exact fun hmem => hmem.elim hz hlater
      · cases hz' : z with
        | nil => simp
        | cons b z' =>
          rw [← hz']
          have hfield : Bytes.IsField z := by
            refine ⟨by simp [hz'], fun c hc => hf.solid c ?_⟩
            rw [htext, Bytes.chars_append_encode]
            exact List.mem_append_right _ (List.mem_cons_of_mem _ hc)
          rw [if_neg (by simp [hz']), Bytes.fields_append hfield hs]

theorem mem_behindCover {g : Bytes} (hg : g ∈ behindCover fs) :
    g ∈ fs ∨ ∃ f ∈ fs, g = behindParen f ∧ g ≠ [] := by
  induction fs with
  | nil => cases hg
  | cons f fs ih =>
    rw [behindCover] at hg
    split at hg
    · rcases ih hg with hmem | ⟨f', hf', hpiece⟩
      · exact .inl (List.mem_cons_of_mem _ hmem)
      · exact .inr ⟨f', List.mem_cons_of_mem _ hf', hpiece⟩
    · split at hg
      · exact .inl (List.mem_cons_of_mem _ hg)
      · next hne =>
        rcases List.mem_cons.1 hg with rfl | hmem
        · exact .inr ⟨f, by simp, rfl, by simpa using hne⟩
        · exact .inl (List.mem_cons_of_mem _ hmem)

theorem behindParen_infix_chars (f : Bytes) : (behindParen f).chars <:+: f.chars := by
  by_cases h : ')' ∈ f.chars
  · obtain ⟨u, z, htext, hz⟩ := exists_last_paren h
    rw [behindParen_eq htext hz]
    conv_rhs => rw [htext, Bytes.chars_append_encode]
    exact ((List.suffix_cons _ _).trans (List.suffix_append _ _)).isInfix
  · rw [behindParen_of_not_mem h]

/-! ## What is left of a line -/

/-- The text ends here, or the line does. -/
def EndsLine (r : Bytes) : Prop := r = [] ∨ ∃ t, r = String.utf8EncodeChar '\n' ++ t

theorem EndsLine.startsBlank {r : Bytes} (hr : EndsLine r) : Bytes.StartsBlank r := by
  rcases hr with rfl | ⟨t, rfl⟩
  · exact Bytes.startsBlank_nil
  · exact Bytes.startsBlank_encode (by decide) t

theorem EndsLine.newline {r : Bytes} (hr : EndsLine r) : ∀ x ∈ r.runes.head?, x.char = '\n' := by
  rcases hr with rfl | ⟨t, rfl⟩
  · simp
  · rw [Bytes.runes_encode_append]
    simp [Rune.ofChar]

theorem startsBlank_append {r : Bytes} (hs : Bytes.StartsBlank s) (hr : Bytes.StartsBlank r) :
    Bytes.StartsBlank (s ++ r) := by
  rcases hs with rfl | ⟨c, t, hc, rfl⟩
  · exact hr
  · rw [List.append_assoc]
    exact Bytes.startsBlank_encode hc _

/-- A field that is taken or left whole, whatever stands behind it. -/
def IsSolitary (f : Bytes) : Prop := (IsStructural f ∧ isImage f = false) ∨ isPlain f = true

/-- One field at the front, taken or left whole. -/
theorem fields_leftover_solitary (hf : Bytes.IsField f) (hs : Bytes.StartsBlank s)
    (h : IsSolitary f) (before : Option Char) :
    ∃ behind, (backgroundPart.leftover before (f ++ s)).fields =
      [f].filter isPlain ++ (backgroundPart.leftover behind s).fields := by
  refine ⟨lastChar before f.runes, ?_⟩
  rcases h with ⟨hstruct, himage⟩ | hplain
  · rw [leftover_field hf hs (hstruct.takes himage hs),
      List.filter_cons_of_neg (by simp [hstruct.isPlain])]
    rfl
  · rw [leftover_kept hs (fun u x v hsplit => takes_nothing_of_isPlain hplain hs hsplit),
      Bytes.fields_append hf (startsBlank_leftover backgroundPart_keepsBlanks hs _),
      List.filter_cons_of_pos hplain]
    rfl

theorem fields_leftover_noImage {r : Bytes} (hr : EndsLine r) (h : ∀ f ∈ s.fields, IsSolitary f) :
    ∀ before, ∃ behind, (backgroundPart.leftover before (s ++ r)).fields =
      s.fields.filter isPlain ++ (backgroundPart.leftover behind r).fields := by
  induction s using Bytes.field_induction with
  | nil => exact fun before => ⟨before, rfl⟩
  | blank c s hc ih =>
    intro before
    rw [Bytes.fields_blank hc] at h ⊢
    obtain ⟨behind, hbehind⟩ := ih h (some c)
    exact ⟨behind, by
      rw [List.append_assoc, leftover_blank backgroundPart_keepsBlanks hc,
        Bytes.fields_blank hc, hbehind]⟩
  | field f s hf hs ih =>
    intro before
    rw [Bytes.fields_append hf hs] at h ⊢
    obtain ⟨middle, hmiddle⟩ := fields_leftover_solitary hf (startsBlank_append hs hr.startsBlank)
      (h f (by simp)) before
    obtain ⟨behind, hbehind⟩ := ih (fun g hg => h g (List.mem_cons_of_mem _ hg)) middle
    refine ⟨behind, ?_⟩
    rw [List.append_assoc, hmiddle, hbehind, ← List.append_assoc, ← List.filter_append]
    rfl

/-- What stands behind a cover is solitary. -/
theorem isSolitary_behindCover {g : Bytes} (hfs : ∀ f ∈ fs, IsStructural f ∨ isPlain f = true)
    (hg : g ∈ behindCover fs) (hparen : ')' ∉ g.chars) : IsSolitary g := by
  rcases mem_behindCover hg with hmem | ⟨f, hf, rfl, hne⟩
  · rcases hfs g hmem with hstruct | hplain
    · rcases hstruct.image_or_no_paren with ⟨text, -, -, hchars⟩ | ⟨himage, -⟩
      · exact absurd (by simp [hchars]) hparen
      · exact .inl ⟨hstruct, himage⟩
    · exact .inr hplain
  · rcases hfs f hf with hstruct | hplain
    · rcases hstruct.image_or_no_paren with ⟨text, -, -, hchars⟩ | ⟨himage, hno⟩
      · -- nothing stands behind the parenthesis of an image
        obtain ⟨u, z, htext, hz⟩ := exists_last_paren (f := f) (by simp [hchars])
        rw [behindParen_eq htext hz] at hne hparen
        have hlast := congrArg List.getLast? hchars
        rw [htext, Bytes.chars_append_encode] at hlast
        cases hzc : z.chars with
        | nil =>
          refine absurd ?_ hne
          have hback := Bytes.ofRunes_runes z
          rw [List.map_eq_nil_iff.1 hzc] at hback
          exact hback.symm
        | cons c cs =>
          rw [hzc, List.getLast?_append_of_ne_nil _ (by simp), List.getLast?_cons_cons,
            ← List.append_assoc, List.getLast?_concat] at hlast
          exact absurd (hzc ▸ List.mem_of_getLast? hlast) hz
      · rw [behindParen_of_not_mem hno]
        exact .inl ⟨hstruct, himage⟩
    · exact .inr (isPlain_of_infix_chars hplain (behindParen_infix_chars f))

/-- The last parenthesis of a line with an image in front is that of the image or a later one. -/
theorem exists_image_inner {text more u v : List Char} (hne : text ≠ []) (htext : ')' ∉ text)
    (h : u ++ ')' :: v = "url(".toList ++ (text ++ ')' :: more)) :
    ∃ inner, inner ≠ [] ∧ u = "url(".toList ++ inner := by
  rw [← List.append_assoc] at h
  rcases List.append_eq_append_iff.1 h with ⟨t, ht, hclose⟩ | ⟨t, ht, hclose⟩
  · cases t with
    | nil =>
      rw [List.append_nil] at ht
      exact ⟨text, hne, ht.symm⟩
    | cons c t =>
      obtain rfl : c = ')' := by simpa [eq_comm] using congrArg List.head? hclose
      have hmem : ')' ∈ "url(".toList ++ text := by rw [ht]; simp
      rcases List.mem_append.1 hmem with hmem | hmem
      · exact absurd hmem (by decide)
      · exact absurd hmem htext
  · exact ⟨text ++ t, by simp [hne], by rw [ht, List.append_assoc]⟩

/-- **An image takes its line up to the last parenthesis.** -/
theorem leftover_image {text : List Char} {r u z : Bytes} (hr : EndsLine r) (hne : text ≠ [])
    (htext : ')' ∉ text) (hchars : s.chars = "url(".toList ++ (text ++ ')' :: f.chars))
    (hline : '\n' ∉ s.chars) (hs : s = u ++ (String.utf8EncodeChar ')' ++ z)) (hz : ')' ∉ z.chars)
    (before : Option Char) : ∃ behind,
      backgroundPart.leftover before (s ++ r) = backgroundPart.leftover behind (z ++ r) := by
  have hsplit : s.chars = u.chars ++ ')' :: z.chars := by rw [hs, Bytes.chars_append_encode]
  obtain ⟨inner, hinner, hu⟩ := exists_image_inner hne htext (hsplit.symm.trans hchars)
  obtain ⟨name, rest, hruns, hname, rfl⟩ := List.map_eq_append_iff.1 hu
  have hzr : (z ++ r).runes = z.runes ++ r.runes := Bytes.runes_append_startsBlank z hr.startsBlank
  have hread : (s ++ r).runes = (name ++ (rest ++ [Rune.ofChar ')'])) ++ (z ++ r).runes := by
    rw [hs, List.append_assoc, List.append_assoc, Bytes.runes_append_encode, hruns]
    simp
  refine ⟨_, leftover_taken hread (by simp) ?_ before⟩
  rw [hzr]
  refine takes_image hname (by simpa using hinner) rfl ?_
    (fun x hx hc => hz (hc ▸ List.mem_map_of_mem hx)) hr.newline
  intro x hx hnew
  refine hline ?_
  rw [hsplit, hu, ← hnew, List.append_assoc]
  refine List.mem_append_right _ ?_
  have hmem := List.mem_map_of_mem (f := Rune.char) hx
  rwa [List.map_append] at hmem

/-- **What is left of a line** are its plain fields that no image covers. -/
theorem fields_leftover_line {r : Bytes} (hr : EndsLine r)
    (h : ∀ f ∈ s.fields, IsStructural f ∨ isPlain f = true) (hline : '\n' ∉ s.chars) :
    ∀ before, ∃ behind, (backgroundPart.leftover before (s ++ r)).fields =
      (uncovered s.fields).filter isPlain ++ (backgroundPart.leftover behind r).fields := by
  induction s using Bytes.field_induction with
  | nil => exact fun before => ⟨before, rfl⟩
  | blank c s hc ih =>
    intro before
    rw [Bytes.fields_blank hc] at h ⊢
    rw [Bytes.chars_encode_append, List.mem_cons, not_or] at hline
    obtain ⟨behind, hbehind⟩ := ih h hline.2 (some c)
    exact ⟨behind, by
      rw [List.append_assoc, leftover_blank backgroundPart_keepsBlanks hc,
        Bytes.fields_blank hc, hbehind]⟩
  | field f s hf hs ih =>
    intro before
    have hall := h
    rw [Bytes.fields_append hf hs] at h ⊢
    have hrest := hline
    rw [Bytes.chars_append_startsBlank f hs, List.mem_append, not_or] at hrest
    -- without an image the line goes on behind the field
    have hon : IsSolitary f → isImage f = false → ∃ behind,
        (backgroundPart.leftover before (f ++ s ++ r)).fields =
          (uncovered (f :: s.fields)).filter isPlain ++
            (backgroundPart.leftover behind r).fields := by
      intro hsolitary himage
      obtain ⟨middle, hmiddle⟩ := fields_leftover_solitary hf (startsBlank_append hs hr.startsBlank)
        hsolitary before
      obtain ⟨behind, hbehind⟩ := ih (fun g hg => h g (List.mem_cons_of_mem _ hg)) hrest.2 middle
      refine ⟨behind, ?_⟩
      rw [List.append_assoc, hmiddle, hbehind, ← List.append_assoc, ← List.filter_append, uncovered,
        if_neg (by simp [himage])]
      rfl
    rcases h f (by simp) with hstruct | hplain
    · rcases hstruct.image_or_no_paren with ⟨text, hne, htext, hchars⟩ | ⟨himage, -⟩
      · have himage : isImage f = true := by
          rw [isImage, List.isPrefixOf_iff_prefix, hchars]
          exact List.prefix_append _ _
        have hparen : ')' ∈ (f ++ s).chars := by
          rw [Bytes.chars_append_startsBlank f hs, hchars]
          simp
        obtain ⟨u, z, hsplit, hz, hfields⟩ := exists_behindCover hparen
        obtain ⟨middle, hmiddle⟩ := leftover_image (f := s) hr hne
          (fun hmem => (htext _ hmem).2.2 rfl)
          (by rw [Bytes.chars_append_startsBlank f hs, hchars]; simp) hline hsplit hz before
        obtain ⟨behind, hbehind⟩ := fields_leftover_noImage hr (fun g hg =>
          isSolitary_behindCover hall (hfields ▸ hg)
            (fun hmem => hz (Bytes.mem_chars_of_mem_fields hg hmem))) middle
        refine ⟨behind, ?_⟩
        rw [hmiddle, hbehind, hfields, Bytes.fields_append hf hs, uncovered, if_pos himage]
      · exact hon (.inl ⟨hstruct, himage⟩) himage
    · exact hon (.inr hplain) (isImage_of_isPlain hplain)

/-! ## All lines -/

theorem exists_line (s : Bytes) : ∃ line r, s = line ++ r ∧ (0x0A : UInt8) ∉ line ∧
    (r = [] ∧ s.splitOn 0x0A = [line] ∨
      ∃ t, r = String.utf8EncodeChar '\n' ++ t ∧ s.splitOn 0x0A = line :: t.splitOn 0x0A) := by
  induction s with
  | nil => exact ⟨[], [], rfl, by simp, .inl ⟨rfl, rfl⟩⟩
  | cons b s ih =>
    by_cases hb : b = 0x0A
    · subst hb
      exact ⟨[], _, rfl, by simp, .inr ⟨s, rfl, Bytes.splitOn_cons_self _ s⟩⟩
    · obtain ⟨line, r, hs, hline, hlines⟩ := ih
      refine ⟨b :: line, r, by rw [hs]; rfl, by simp [hline, Ne.symm hb], ?_⟩
      rcases hlines with ⟨hr, h⟩ | ⟨t, hr, h⟩
      · exact .inl ⟨hr, Bytes.splitOn_cons_of_ne hb h⟩
      · exact .inr ⟨t, hr, Bytes.splitOn_cons_of_ne hb h⟩

theorem newline_of_mem_chars (h : '\n' ∈ s.chars) : (0x0A : UInt8) ∈ s := by
  obtain ⟨r, hr, hchar⟩ := List.mem_map.1 h
  have hnewline : r = Rune.ofChar '\n' := by
    rw [Bytes.eq_ofChar_of_blank hr (by rw [hchar]; decide), hchar]
  rw [← Bytes.ofRunes_runes s]
  exact List.mem_flatMap.2 ⟨r, hr, by rw [hnewline]; decide⟩

/-- The fields of the lines are the fields of the text. -/
theorem flatMap_fields_splitOn (s : Bytes) : (s.splitOn 0x0A).flatMap Bytes.fields = s.fields := by
  induction hn : s.length using Nat.strongRecOn generalizing s with
  | _ n ih =>
    obtain ⟨line, r, hs, -, ⟨rfl, hlines⟩ | ⟨t, rfl, hlines⟩⟩ := exists_line s
    · rw [hlines, hs]
      simp
    · have hlen : t.length < n := by
        rw [← hn, hs, List.length_append, List.length_append]
        have := Rune.length_encode_pos '\n'
        omega
      rw [hlines, List.flatMap_cons, ih _ hlen t rfl, hs,
        Bytes.fields_append_blank line (by decide)]

/-- **What is left of a background** are the plain fields that no image covers. -/
theorem fields_leftover_lines (h : ∀ f ∈ s.fields, IsStructural f ∨ isPlain f = true) :
    ∀ before, (backgroundPart.leftover before s).fields =
      ((s.splitOn 0x0A).flatMap fun line => uncovered line.fields).filter isPlain := by
  induction hn : s.length using Nat.strongRecOn generalizing s with
  | _ n ih =>
    intro before
    obtain ⟨line, r, hs, hline, hlines⟩ := exists_line s
    have hnewline : '\n' ∉ line.chars := fun hmem => hline (newline_of_mem_chars hmem)
    rcases hlines with ⟨rfl, hlines⟩ | ⟨t, rfl, hlines⟩
    · rw [List.append_nil] at hs
      subst hs
      obtain ⟨behind, hbehind⟩ := fields_leftover_line (.inl rfl) h hnewline before
      rw [List.append_nil] at hbehind
      rw [hbehind, hlines]
      simp [leftover, deleteFrom]
    · have hfields : s.fields = line.fields ++ t.fields := by
        rw [hs, Bytes.fields_append_blank line (by decide)]
      have hlen : t.length < n := by
        rw [← hn, hs, List.length_append, List.length_append]
        have := Rune.length_encode_pos '\n'
        omega
      rw [hfields] at h
      obtain ⟨behind, hbehind⟩ := fields_leftover_line (.inr ⟨t, rfl⟩)
        (fun f hf => h f (List.mem_append_left _ hf)) hnewline before
      rw [hs, hbehind, leftover_blank backgroundPart_keepsBlanks (by decide),
        Bytes.fields_blank (by decide), ih _ hlen
        (fun f hf => h f (List.mem_append_right _ hf)) rfl, ← hs,
        hlines, List.flatMap_cons, List.filter_append]

/-! ## Literals of a background -/

/-- A field that has to come from a variable and does not. -/
structure IsLiteral (f : Bytes) : Prop where
  plain : isPlain f = true
  no_quote : ∀ c ∈ f.chars, isQuote c = false
  not_variable : isVariable f = false

theorem IsStructural.no_quote (hf : IsStructural f) : ∀ c ∈ f.chars, isQuote c = false := by
  have hword : ∀ c : Char, isWordChar c = true → isQuote c = false := by
    intro c hc
    by_contra hq
    rw [Bool.not_eq_false, isQuote, Bool.or_eq_true, beq_iff_eq, beq_iff_eq] at hq
    rcases hq with rfl | rfl
    · exact absurd hc (by decide)
    · exact absurd hc (by decide)
  intro c hc
  cases hf with
  | @word k hk hf =>
    have hall : ∀ k ∈ sides ++ ["repeat", "no-repeat"], ∀ c ∈ k.toList, isQuote c = false :=
      forall_mem_words (by decide)
    exact hall k hk c (hf ▸ hc)
  | @measure digits unit hne hdigits hune hunit hf =>
    rcases List.mem_append.1 (hf ▸ hc) with hc | hc
    · exact hword c (isWordChar_of_isDigit (hdigits c hc))
    · rcases hunit with halpha | rfl
      · exact hword c (isWordChar_of_isAlpha (halpha c hc))
      · obtain rfl := List.mem_singleton.1 hc
        rfl
  | @image text hne htext hf =>
    rw [hf, List.mem_append, List.mem_append, List.mem_singleton] at hc
    rcases hc with hc | hc | rfl
    · exact forall_mem_of_all (P := fun c => isQuote c = false) (by decide) c hc
    · exact (htext c hc).1
    · rfl

theorem mem_uncovered {g : Bytes} (hg : g ∈ uncovered fs) : ∃ f ∈ fs, g.chars <:+: f.chars := by
  induction fs with
  | nil => cases hg
  | cons f fs ih =>
    rw [uncovered] at hg
    split at hg
    · rcases mem_behindCover hg with hmem | ⟨f', hf', rfl, -⟩
      · exact ⟨g, hmem, List.infix_rfl⟩
      · exact ⟨f', hf', behindParen_infix_chars f'⟩
    · rcases List.mem_cons.1 hg with rfl | hg
      · exact ⟨g, by simp, List.infix_rfl⟩
      · obtain ⟨f', hf', hin⟩ := ih hg
        exact ⟨f', List.mem_cons_of_mem _ hf', hin⟩

theorem mem_behindCover_of_no_paren {back : List Bytes} (hno : ∀ g ∈ f :: back, ')' ∉ g.chars) :
    ∀ (front : List Bytes) (g : Bytes), f ∈ behindCover (g :: (front ++ f :: back))
  | [], g => by
    rw [behindCover, if_neg (by simpa using hno)]
    split <;> simp
  | g' :: front, g => by
    rw [behindCover]
    split
    · exact mem_behindCover_of_no_paren hno front g'
    · split <;> simp

/-- A field is not covered if no image stands before it, or no parenthesis in it and behind it. -/
theorem mem_uncovered_of {back : List Bytes} (hf : isImage f = false) : ∀ front : List Bytes,
    ((∀ g ∈ front, isImage g = false) ∨ ∀ g ∈ f :: back, ')' ∉ g.chars) →
      f ∈ uncovered (front ++ f :: back)
  | [], _ => by simp [uncovered, hf]
  | g :: front, h => by
    rw [List.cons_append, uncovered]
    split
    · next himage =>
      refine mem_behindCover_of_no_paren (h.resolve_left fun hnone => ?_) front g
      rw [hnone g (by simp)] at himage
      cases himage
    · refine List.mem_cons_of_mem _ (mem_uncovered_of hf front ?_)
      exact h.imp_left fun hnone g' hg' => hnone g' (List.mem_cons_of_mem _ hg')

end

/-- **What a background of structural and literal fields keeps.** Of each line it keeps the literals
that no image covers: the first image of a line covers all up to the last parenthesis of the line.
So the background passes exactly if what is kept are variables, and a literal is kept, and the
background rejected, where no image stands before it in its line or no parenthesis follows. -/
theorem background_keeps_uncovered {value : Bytes}
    (hfields : ∀ f ∈ value.fields, IsStructural f ∨ IsLiteral f) :
    (normalize "background" value).fields =
        ((value.splitOn 0x0A).flatMap fun line => uncovered line.fields).filter isPlain ∧
      ((Verdict.judge none "background" value).accepted = true ↔
        ∀ f ∈ ((value.splitOn 0x0A).flatMap fun line => uncovered line.fields).filter isPlain,
          isVariable f = true) ∧
      ∀ line ∈ value.splitOn 0x0A, ∀ front f back, line.fields = front ++ f :: back → IsLiteral f →
        ((∀ g ∈ front, isImage g = false) ∨ ∀ g ∈ f :: back, ')' ∉ g.chars) →
          f ∈ (normalize "background" value).fields ∧
            (Verdict.judge none "background" value).accepted = false := by
  have hkept : (normalize "background" value).fields =
      ((value.splitOn 0x0A).flatMap fun line => uncovered line.fields).filter isPlain := by
    have hnormalize : normalize "background" value = (backgroundPart.leftover none value).trim := by
      rw [normalize, if_neg (by simp [show isBorder "background" = false by decide]),
        if_pos (by decide)]
      rfl
    rw [hnormalize, Bytes.fields_trim]
    exact fields_leftover_lines (fun f hf => (hfields f hf).imp_right fun hlit => hlit.plain) none
  have hquote : ∀ g ∈ (normalize "background" value).fields, ∀ c ∈ g.chars, isQuote c = false := by
    intro g hg c hc
    rw [hkept, List.mem_filter, List.mem_flatMap] at hg
    obtain ⟨⟨line, hline, hg⟩, -⟩ := hg
    obtain ⟨f, hf, hin⟩ := mem_uncovered hg
    have hvalue : f ∈ value.fields := by
      rw [← flatMap_fields_splitOn]
      exact List.mem_flatMap.2 ⟨line, hline, hf⟩
    rcases hfields f hvalue with hstruct | hlit
    · exact hstruct.no_quote c (hin.subset hc)
    · exact hlit.no_quote c (hin.subset hc)
  have haccepted := Verdict.accepted_none_iff hquote
  refine ⟨hkept, by rw [haccepted, hkept], fun line hline front f back hsplit hlit hopen => ?_⟩
  have hmem : f ∈ (normalize "background" value).fields := by
    rw [hkept, List.mem_filter, List.mem_flatMap]
    refine ⟨⟨line, hline, ?_⟩, hlit.plain⟩
    rw [hsplit]
    exact mem_uncovered_of (isImage_of_isPlain hlit.plain) front hopen
  refine ⟨hmem, ?_⟩
  by_contra hpass
  rw [Bool.not_eq_false, haccepted] at hpass
  have hvar := hpass f hmem
  rw [hlit.not_variable] at hvar
  cases hvar

theorem background_keeps_uncovered_redBehindImage :
    ("red" : Bytes) ∈ (normalize "background" "url(a) 50% red").fields ∧
      (Verdict.judge none "background" "url(a) 50% red").accepted = false := by
  have hfields : Bytes.fields "url(a) 50% red" = (["url(a)", "50%", "red"] : List Bytes) := by
    decide
  have hlines : Bytes.splitOn 0x0A "url(a) 50% red" = (["url(a) 50% red"] : List Bytes) := by decide
  have hred : IsLiteral "red" := ⟨by decide, forall_mem_of_all (by decide), by decide⟩
  have hall : ∀ f ∈ Bytes.fields "url(a) 50% red", IsStructural f ∨ IsLiteral f := by
    rw [hfields]
    intro f hf
    simp only [List.mem_cons, List.not_mem_nil, or_false] at hf
    rcases hf with rfl | rfl | rfl
    · exact .inl
        (@IsStructural.image _ ['a'] (by decide) (forall_mem_of_all (by decide)) (by decide))
    · exact .inl (@IsStructural.measure _ ['5', '0'] ['%'] (by decide)
        (forall_mem_of_all (by decide))
        (by decide) (.inr rfl) (by decide))
    · exact .inr hred
  exact (background_keeps_uncovered hall).2.2 _ (by rw [hlines]; simp)
    ["url(a)", "50%"] "red" [] hfields
    hred (.inr (by decide))

/-- Between two images a literal is lost, and the background passes. -/
theorem background_literal_between_images :
    Bytes.fields "url(a) red url(b)" = (["url(a)", "red", "url(b)"] : List Bytes) ∧
      IsStructural "url(a)" ∧ IsLiteral "red" ∧ IsStructural "url(b)" ∧
      (normalize "background" "url(a) red url(b)").fields = [] ∧
      (Verdict.judge none "background" "url(a) red url(b)").accepted = true := by
  refine ⟨by decide, ?_, ⟨by decide, forall_mem_of_all (by decide), by decide⟩, ?_,
    by decide, by decide⟩
  · exact @IsStructural.image _ ['a'] (by decide) (forall_mem_of_all (by decide)) (by decide)
  · exact @IsStructural.image _ ['b'] (by decide) (forall_mem_of_all (by decide)) (by decide)

end VarLint.Value
