import VarLint.Proofs.VariableTokens

/-!
# Border shorthands

What is left of a border when its widths and line styles are deleted.

* `past_lineWidth_marked`, `past_lineWidth_unit`, `past_lineWidth_digits`, `past_lineWidth_lone`:
  what a width takes, by what stands behind its digits
* `takes_part`, `takes_digits`, `takes_pair`, `takes_nothing_of_isClean`: what one match takes
* `Separable`: every field is deleted whole or left whole
* `Separable.fields_leftover`, `separable_of_fields`: the clean fields are left, and without
  integers every value comes apart
* `border_keeps_clean_fields`: the fields and the literals of a border
-/

namespace VarLint

namespace Value

open Regex

/-! ## What a width takes -/

section

variable {p : Cursor} {whole tail rest : List Rune}

private theorem head?_word (tail : List Rune) (hp : p.after = tail ++ rest) (hne : tail ≠ [])
    (htail : ∀ r ∈ tail, isWordChar r.char = true)
    (hrest : ∀ r ∈ rest.head?, isWordChar r.char = false) :
    ((Regex.plus .wordChar).ends p).head? = some (p.move tail.length) := by
  obtain ⟨more, hmore⟩ := ends_plus_char_run (k := .ofItem CharClass.wordItem) hp hne
    (by simpa using htail) (by simpa using hrest)
  rw [wordChar, hmore, List.head?_cons]

private theorem head?_word_none (hrest : ∀ r ∈ p.after.head?, isWordChar r.char = false) :
    ((Regex.plus .wordChar).ends p).head? = none := by
  rw [wordChar, ends_plus_char_none (by simpa using hrest), List.head?_nil]

/-- What stands behind the digits of a width: one character of any kind and a word, or else a
word. -/
private theorem head?_behind (p : Cursor) :
    ((Regex.seq (.opt (.char .anyButNewline)) (.plus .wordChar)).ends p).head? =
      (if p.after.head?.any fun r => r.char != '\n' then
        ((Regex.plus .wordChar).ends (p.move 1)).head? else none).or
      ((Regex.plus .wordChar).ends p).head? := by
  rw [head?_seq, ends_opt, ends_char, List.findSome?_append, List.findSome?_singleton]
  simp only [CharClass.contains_anyButNewline, bne]
  split <;> simp [*]

private theorem head?_lineWidth {q : Cursor} (hp : p.after = whole ++ rest) (hne : whole ≠ [])
    (hwhole : ∀ r ∈ whole, r.char.isDigit = true) (hrest : ∀ r ∈ rest.head?, r.char.isDigit = false)
    (hbehind : ((Regex.seq (.opt (.char .anyButNewline)) (.plus .wordChar)).ends
      (p.move whole.length)).head? = some q) :
    (lineWidth.ends p).head? = some q := by
  obtain ⟨more, hmore⟩ := ends_plus_char_run (k := .ofItem CharClass.digitItem) hp hne
    (by simpa using hwhole) (by simpa using hrest)
  rw [lineWidth, head?_seq, digit, hmore, List.findSome?_cons, hbehind]

/-- A mark between digits and a word is taken with them, whatever it is. -/
theorem past_lineWidth_marked {x : Rune} (hp : p.after = whole ++ x :: (tail ++ rest))
    (hne : whole ≠ []) (hwhole : ∀ r ∈ whole, r.char.isDigit = true) (hx : x.char.isDigit = false)
    (hline : x.char ≠ '\n') (htne : tail ≠ []) (htail : ∀ r ∈ tail, isWordChar r.char = true)
    (hrest : ∀ r ∈ rest.head?, isWordChar r.char = false) :
    lineWidth.past p = p.move (whole ++ x :: tail).length := by
  have hafter : (p.move whole.length).after = x :: (tail ++ rest) := by simp [hp]
  have hword : ((Regex.plus .wordChar).ends ((p.move whole.length).move 1)).head? =
      some (((p.move whole.length).move 1).move tail.length) :=
    head?_word tail (by rw [Cursor.after_move, hafter]; rfl) htne htail hrest
  refine past_of_head? (head?_lineWidth hp hne hwhole (by simpa using hx) ?_)
  rw [head?_behind, hafter, List.head?_cons, Option.any_some, if_pos (by simpa using hline), hword]
  simp [Nat.add_comm, Nat.add_left_comm]

/-- Digits and a word directly behind them are taken together. -/
theorem past_lineWidth_unit (hp : p.after = whole ++ (tail ++ rest)) (hne : whole ≠ [])
    (hwhole : ∀ r ∈ whole, r.char.isDigit = true) (htne : tail ≠ [])
    (hhead : ∀ r ∈ tail.head?, r.char.isDigit = false)
    (htail : ∀ r ∈ tail, isWordChar r.char = true)
    (hrest : ∀ r ∈ rest.head?, isWordChar r.char = false) :
    lineWidth.past p = p.move (whole ++ tail).length := by
  obtain ⟨x, more, rfl⟩ := List.exists_cons_of_ne_nil htne
  have hafter : (p.move whole.length).after = x :: (more ++ rest) := by simp [hp]
  have hline : x.char ≠ '\n' := by
    intro h
    have := htail x (by simp)
    rw [h] at this
    exact absurd this (by decide)
  refine past_of_head? (head?_lineWidth hp hne hwhole (by simpa using hhead) ?_)
  rw [head?_behind, hafter, List.head?_cons, Option.any_some, if_pos (by simpa using hline)]
  -- the wildcard takes the first letter, unless the word would be left empty
  cases more with
  | nil =>
    have hnone : ((Regex.plus .wordChar).ends ((p.move whole.length).move 1)).head? = none :=
      head?_word_none (by rw [Cursor.after_move, hafter]; simpa using hrest)
    rw [hnone, Option.none_or, head?_word [x] (by rw [hafter]; rfl) (by simp) htail hrest]
    simp
  | cons y more =>
    rw [head?_word (y :: more) (by rw [Cursor.after_move, hafter]; rfl) (by simp)
      (fun r hr => htail r (List.mem_cons_of_mem _ hr)) hrest]
    simp [Nat.add_comm, Nat.add_left_comm]

/-- No word goes on behind one character of any kind. -/
def IsStuck (rest : List Rune) : Prop :=
  ∀ x y more, rest = x :: y :: more → x.char = '\n' ∨ isWordChar y.char = false

private theorem head?_behind_stuck (hrest : ∀ r ∈ p.after.head?, isWordChar r.char = false)
    (hstuck : IsStuck p.after) :
    ((Regex.seq (.opt (.char .anyButNewline)) (.plus .wordChar)).ends p).head? = none := by
  rw [head?_behind, head?_word_none hrest, Option.or_none]
  split
  case isFalse => rfl
  case isTrue hline =>
    refine head?_word_none ?_
    rw [Cursor.after_move]
    intro y hy
    match hafter : p.after with
    | [] => simp [hafter] at hy
    | [x] => simp [hafter] at hy
    | x :: z :: more =>
      obtain rfl : z = y := by simpa [hafter] using hy
      rcases hstuck x z more hafter with hx | hz
      · simp [hafter, hx] at hline
      · exact hz

/-- Two or more digits are a width on their own: the last of them is the word. -/
theorem past_lineWidth_digits (hp : p.after = whole ++ rest) (hlen : 2 ≤ whole.length)
    (hwhole : ∀ r ∈ whole, r.char.isDigit = true)
    (hrest : ∀ r ∈ rest.head?, isWordChar r.char = false) (hstuck : IsStuck rest) :
    lineWidth.past p = p.move whole.length := by
  obtain ⟨init, last, rfl⟩ := (List.eq_nil_or_concat whole).resolve_left
    (by rintro rfl; simp at hlen)
  rw [List.concat_eq_append] at *
  obtain ⟨m, hm⟩ : ∃ m, init.length = m + 1 := ⟨init.length - 1, by simp at hlen; omega⟩
  have hrun : run (.ofItem CharClass.digitItem) p.after = m + 2 := by
    rw [hp, run_append (by simpa using hwhole)
      (by simpa using fun r hr => isDigit_of_not_word (hrest r hr))]
    simp [hm]
  have hlast : isWordChar last.char = true := isWordChar_of_isDigit (hwhole last (by simp))
  have hafter : (p.move (m + 1)).after = last :: rest := by simp [hp, ← hm]
  have hall : (p.move (m + 2)).after = rest := by
    rw [Cursor.after_move, hp, show m + 2 = (init ++ [last]).length by simp [hm], List.drop_left]
  have hone : ((Regex.seq (.opt (.char .anyButNewline)) (.plus .wordChar)).ends
      (p.move (m + 1))).head? = some (p.move (m + 2)) := by
    have hnone : ((Regex.plus .wordChar).ends ((p.move (m + 1)).move 1)).head? = none :=
      head?_word_none (by rw [Cursor.after_move, hafter]; simpa using hrest)
    rw [head?_behind, hnone,
      head?_word [last] (by rw [hafter]; rfl) (by simp) (by simpa using hlast)
      hrest]
    simp
  refine past_of_head? ?_
  rw [lineWidth, head?_seq, digit, ends_plus_char, hrun, if_neg (by omega)]
  show ((downFrom (m + 1)).map _).findSome? _ = _
  have hnext : ∃ more, downFrom m = m :: more := by cases m <;> exact ⟨_, rfl⟩
  obtain ⟨more, hmore⟩ := hnext
  rw [downFrom, hmore, List.map_cons, List.map_cons, List.findSome?_cons,
    head?_behind_stuck (by rw [hall]; exact hrest) (by rw [hall]; exact hstuck),
    List.findSome?_cons,
    hone]
  simp [hm]

/-- One digit that no word goes on behind is no width. -/
theorem past_lineWidth_lone {d : Rune} (hp : p.after = d :: rest) (hd : d.char.isDigit = true)
    (hrest : ∀ r ∈ rest.head?, isWordChar r.char = false) (hstuck : IsStuck rest) :
    lineWidth.past p = p := by
  have hrun : run (.ofItem CharClass.digitItem) p.after = 1 := by
    rw [hp]
    exact run_append (w := [d]) (by simpa using hd)
      (by simpa using fun r hr => isDigit_of_not_word (hrest r hr))
  have hall : (p.move 1).after = rest := by simp [hp]
  have hnone : (lineWidth.ends p).head? = none := by
    rw [lineWidth, head?_seq, digit, ends_plus_char, hrun, if_neg (by omega)]
    show (List.map _ [0]).findSome? _ = _
    rw [List.map_singleton, List.findSome?_singleton,
      head?_behind_stuck (by rw [hall]; exact hrest) (by rw [hall]; exact hstuck)]
  rw [past, hnone, Option.getD_none]

theorem past_lineWidth_none (hp : ∀ r ∈ p.after.head?, r.char.isDigit = false) :
    lineWidth.past p = p := by
  have hnone : (lineWidth.ends p).head? = none := by
    rw [lineWidth, head?_seq, digit, ends_plus_char_none (by simpa using hp), List.findSome?_nil]
  rw [past, hnone, Option.getD_none]

end

/-! ## What a line style takes -/

section

variable {k : String} {p : Cursor} {w rest : List Rune}

theorem isAlpha_of_mem_lineStyle (hk : k ∈ lineStyles) : ∀ c ∈ k.toList, c.isAlpha = true :=
  forall_mem_words (by decide) k hk

theorem lineStyle_ne_nil (hk : k ∈ lineStyles) : k.toList ≠ [] := by
  revert k
  decide

/-- No line style starts another. -/
theorem eq_of_prefix_lineStyle {j : String} (hk : k ∈ lineStyles) (hj : j ∈ lineStyles)
    (h : j.toList <+: k.toList) : j = k := by
  have hall : ∀ k ∈ lineStyles, ∀ j ∈ lineStyles, j.toList <+: k.toList → j = k := by decide
  exact hall k hk j hj h

theorem not_prefix_of_lineStyle {cs : List Char} (hcs : ∀ c ∈ cs.head?, isWordChar c = false)
    (hk : k ∈ lineStyles) : ¬ k.toList <+: cs := by
  intro h
  have hnil : k.toList <+: [] := prefix_of_prefix_append
    (fun c hc => isWordChar_of_isAlpha (isAlpha_of_mem_lineStyle hk c hc)) hcs (by simpa using h)
  exact lineStyle_ne_nil hk (List.prefix_nil.1 hnil)

theorem past_styles_none (h : ∀ k ∈ lineStyles, ¬ k.toList <+: p.after.map Rune.char) :
    (Regex.choice (lineStyles.map .literal)).past p = p :=
  past_of_ends_nil (ends_choice_none lineStyles h)

theorem past_styles (hk : k ∈ lineStyles) (hp : p.after = w ++ rest)
    (hw : w.map Rune.char = k.toList) (hrest : ∀ r ∈ rest.head?, isWordChar r.char = false) :
    (Regex.choice (lineStyles.map .literal)).past p = p.move w.length := by
  have hchars : p.after.map Rune.char = k.toList ++ rest.map Rune.char := by
    rw [hp, List.map_append, hw]
  have hlen : w.length = k.toList.length := by rw [← hw, List.length_map]
  rw [hlen]
  refine past_of_head?
    (head?_choice lineStyles hk (hchars ▸ List.prefix_append _ _) fun j hj hpre => ?_)
  rw [hchars] at hpre
  refine eq_of_prefix_lineStyle hk hj (prefix_of_prefix_append
    (fun c hc => isWordChar_of_isAlpha (isAlpha_of_mem_lineStyle hj c hc)) ?_ hpre)
  simpa [List.head?_map] using hrest

end

/-! ## What is taken at a place -/

section

variable {w rest rs : List Rune}

/-- A width that ends a word is taken alone: no line style follows directly. -/
theorem takes_of_past
    (hpast : ∀ before, lineWidth.past ⟨0, before, w ++ rest⟩ =
      (⟨0, before, w ++ rest⟩ : Cursor).move w.length)
    (hrest : ∀ r ∈ rest.head?, isWordChar r.char = false) :
    borderPart.Takes w.length (w ++ rest) := by
  refine takes_of_head? (by simp) fun before => ?_
  rw [borderPart, head?_seq_opt, hpast, past_styles_none]
  intro k hk
  refine not_prefix_of_lineStyle ?_ hk
  simpa [List.head?_map] using hrest

theorem takes_style {k : String} (hk : k ∈ lineStyles) (hw : w.map Rune.char = k.toList)
    (hrest : ∀ r ∈ rest.head?, isWordChar r.char = false) :
    borderPart.Takes w.length (w ++ rest) := by
  refine takes_of_head? (by simp) fun before => ?_
  have hhead : ∀ r ∈ (w ++ rest).head?, r.char.isDigit = false := by
    cases w with
    | nil => exact absurd hw.symm (lineStyle_ne_nil hk)
    | cons x w =>
      have hx : x.char ∈ k.toList := by rw [← hw]; simp
      simpa using isDigit_of_isAlpha (isAlpha_of_mem_lineStyle hk _ hx)
  rw [borderPart, head?_seq_opt, past_lineWidth_none hhead, past_styles hk rfl hw hrest]

theorem takes_nothing (hdigit : ∀ r ∈ rs.head?, r.char.isDigit = false)
    (hstyle : ∀ k ∈ lineStyles, ¬ k.toList <+: rs.map Rune.char) : borderPart.Takes 0 rs := by
  refine takes_of_head? (by simp) fun before => ?_
  rw [borderPart, head?_seq_opt, past_lineWidth_none hdigit, past_styles_none hstyle,
    Cursor.move_zero]

end

/-! ## Kinds of fields -/

/-- A number with a unit: digits, perhaps a point with digits behind it, and letters. The unit and
the digits behind the point may be missing. -/
structure Length where
  whole : List Char
  fraction : Option (List Char)
  unit : List Char
  whole_ne_nil : whole ≠ []
  isDigit_whole : ∀ c ∈ whole, c.isDigit = true
  isDigit_fraction : ∀ ds ∈ fraction, ∀ c ∈ ds, c.isDigit = true
  isAlpha_unit : ∀ c ∈ unit, c.isAlpha = true

/-- The characters of a length. -/
def Length.chars (l : Length) : List Char :=
  match l.fraction with
  | none => l.whole ++ l.unit
  | some ds => l.whole ++ '.' :: (ds ++ l.unit)

/-- The length has a unit, or digits behind a point. -/
def Length.IsClosed (l : Length) : Prop := l.unit ≠ [] ∨ ∃ ds ∈ l.fraction, ds ≠ []

/-- A closed length or a line style: deleted wherever it stands. -/
def IsPart (f : Bytes) : Prop :=
  (∃ l : Length, l.IsClosed ∧ f.chars = l.chars) ∨ ∃ k ∈ lineStyles, f.chars = k.toList

/-- Without digits and line styles: left alone wherever it stands. -/
def isClean (f : Bytes) : Bool :=
  f.chars.all (fun c => !c.isDigit) && lineStyles.all fun k => !decide (k.toList <:+: f.chars)

theorem isClean_iff (f : Bytes) : isClean f = true ↔
    (∀ c ∈ f.chars, c.isDigit = false) ∧ ∀ k ∈ lineStyles, ¬ k.toList <:+: f.chars := by
  simp [isClean]

theorem isClean_of_digit {f : Bytes} {c : Char} (hc : c ∈ f.chars) (hd : c.isDigit = true) :
    isClean f = false := by
  by_contra h
  rw [Bool.not_eq_false, isClean_iff] at h
  rw [h.1 c hc] at hd
  cases hd

namespace Length

variable (l : Length)

theorem exists_digit : ∃ c ∈ l.chars, c.isDigit = true := by
  obtain ⟨c, more, hwhole⟩ := List.exists_cons_of_ne_nil l.whole_ne_nil
  refine ⟨c, ?_, l.isDigit_whole c (by simp [hwhole])⟩
  unfold chars
  split <;> simp [hwhole]

variable {l} {w rest : List Rune}

theorem takes (hl : l.IsClosed) (hw : w.map Rune.char = l.chars)
    (hrest : ∀ r ∈ rest.head?, isWordChar r.char = false) :
    borderPart.Takes w.length (w ++ rest) := by
  have hunit : ∀ c ∈ l.unit, isWordChar c = true :=
    fun c hc => isWordChar_of_isAlpha (l.isAlpha_unit c hc)
  refine takes_of_past (fun before => ?_) hrest
  unfold chars at hw
  split at hw
  case h_1 hfraction =>
    have hne : l.unit ≠ [] := hl.resolve_right (by simp [hfraction])
    obtain ⟨whole, unit, rfl, hwhole, hu⟩ := List.map_eq_append_iff.1 hw
    have huc : ∀ r ∈ unit, r.char ∈ l.unit := fun r hr => hu ▸ List.mem_map_of_mem hr
    refine past_lineWidth_unit (by simp) ?_ ?_ ?_ ?_ (fun r hr => hunit _ (huc r hr)) hrest
    · rintro rfl
      exact l.whole_ne_nil hwhole.symm
    · intro r hr
      exact l.isDigit_whole _ (hwhole ▸ List.mem_map_of_mem hr)
    · rintro rfl
      exact hne hu.symm
    · intro r hr
      exact isDigit_of_isAlpha (l.isAlpha_unit _ (huc r (List.mem_of_mem_head? hr)))
  case h_2 ds hfraction =>
    obtain ⟨whole, behind, rfl, hwhole, hbehind⟩ := List.map_eq_append_iff.1 hw
    obtain ⟨x, tail, rfl, hx, ht⟩ := List.map_eq_cons_iff.1 hbehind
    have htc : ∀ r ∈ tail, r.char ∈ ds ++ l.unit := fun r hr => ht ▸ List.mem_map_of_mem hr
    refine past_lineWidth_marked (x := x) (by simp) ?_ ?_ (by rw [hx]; rfl)
      (by rw [hx]; decide) ?_ ?_ hrest
    · rintro rfl
      exact l.whole_ne_nil hwhole.symm
    · intro r hr
      exact l.isDigit_whole _ (hwhole ▸ List.mem_map_of_mem hr)
    · rintro rfl
      obtain ⟨rfl, hnil⟩ := List.append_eq_nil_iff.1 ht.symm
      rcases hl with hne | ⟨ds', hds', hne⟩
      · exact hne hnil
      · rw [hfraction, Option.mem_some_iff] at hds'
        exact hne hds'.symm
    · intro r hr
      rcases List.mem_append.1 (htc r hr) with hd | hu
      · exact isWordChar_of_isDigit (l.isDigit_fraction ds hfraction _ hd)
      · exact hunit _ hu

end Length

section

variable {f s : Bytes}

theorem isClean_of_isPart (hf : IsPart f) : isClean f = false := by
  rcases hf with ⟨l, -, hl⟩ | ⟨k, hk, hfk⟩
  · obtain ⟨c, hc, hd⟩ := l.exists_digit
    exact isClean_of_digit (hl ▸ hc) hd
  · by_contra h
    rw [Bool.not_eq_false, isClean_iff] at h
    exact h.2 k hk (hfk ▸ List.infix_rfl)

theorem takes_part (hf : IsPart f) (hs : Bytes.StartsBlank s) :
    borderPart.Takes f.runes.length (f.runes ++ s.runes) := by
  rcases hf with ⟨l, hl, hfl⟩ | ⟨k, hk, hfk⟩
  · exact Length.takes hl hfl (notWord_of_startsBlank hs)
  · exact takes_style hk hfk (notWord_of_startsBlank hs)

/-- Inside a clean field no part starts, whatever follows the field. -/
theorem takes_nothing_of_isClean (hf : isClean f = true) (hs : Bytes.StartsBlank s)
    {u v : List Rune} {x : Rune} (hx : f.runes = u ++ x :: v) :
    borderPart.Takes 0 (x :: v ++ s.runes) := by
  obtain ⟨hdigit, hstyle⟩ := (isClean_iff f).1 hf
  have hchars : f.chars = u.map Rune.char ++ (x :: v).map Rune.char := by
    rw [Bytes.chars, hx, List.map_append]
  refine takes_nothing (by simpa using hdigit x.char (by rw [hchars]; simp)) fun k hk hpre => ?_
  rw [List.map_append] at hpre
  refine hstyle k hk ?_
  have hinside := prefix_of_prefix_append
    (fun c hc => isWordChar_of_isAlpha (isAlpha_of_mem_lineStyle hk c hc))
    (by simpa [List.head?_map] using notWord_of_startsBlank hs) hpre
  rw [hchars]
  exact hinside.isInfix.trans (List.suffix_append _ _).isInfix

theorem takes_nothing_of_isBlank {c : Char} (hc : isBlank c = true) :
    borderPart.Takes 0 (Rune.ofChar c :: s.runes) := by
  have hword : isWordChar c = false := isWordChar_of_isBlank hc
  exact takes_nothing (by simpa [Rune.ofChar] using isDigit_of_not_word hword)
    fun k hk => not_prefix_of_lineStyle (by simpa [Rune.ofChar] using hword) hk

end

/-! ## Values that come apart -/

/-- The field is a number without a unit and without a point. -/
def IsInteger (f : Bytes) : Prop := f.chars ≠ [] ∧ ∀ c ∈ f.chars, c.isDigit = true

/-- Every field of the text is deleted whole or left whole. The wildcard behind the digits of a
width makes integers delicate: one that stands before a single blank takes the word behind it along,
and one that does not is a width only if it has two digits. -/
inductive Separable : Bytes → Prop
  | nil : Separable []
  | blank {c : Char} {s : Bytes} (hc : isBlank c = true) (hs : Separable s) :
      Separable (String.utf8EncodeChar c ++ s)
  | clean {f s : Bytes} (hf : Bytes.IsField f) (hclean : isClean f = true)
      (hend : Bytes.StartsBlank s)
      (hs : Separable s) : Separable (f ++ s)
  | part {f s : Bytes} (hf : Bytes.IsField f) (hpart : IsPart f) (hend : Bytes.StartsBlank s)
      (hs : Separable s) : Separable (f ++ s)
  | digits {f s : Bytes} (hf : Bytes.IsField f) (hint : IsInteger f) (hlen : 2 ≤ f.chars.length)
      (hend : Bytes.StartsBlank s) (hstuck : IsStuck s.runes)
      (hs : Separable s) : Separable (f ++ s)
  | pair {f g s : Bytes} {c : Char} (hf : Bytes.IsField f) (hint : IsInteger f)
      (hc : isBlank c = true)
      (hline : c ≠ '\n') (hg : Bytes.IsField g) (hword : ∀ d ∈ g.chars, isWordChar d = true)
      (hdrop : isClean g = false) (hend : Bytes.StartsBlank s) (hs : Separable s) :
      Separable (f ++ (String.utf8EncodeChar c ++ (g ++ s)))

section

variable {f s : Bytes}

theorem IsInteger.isClean (hf : IsInteger f) : isClean f = false := by
  obtain ⟨c, more, hchars⟩ := List.exists_cons_of_ne_nil hf.1
  exact isClean_of_digit (c := c) (by simp [hchars]) (hf.2 c (by simp [hchars]))

theorem borderPart_keepsBlanks : borderPart.KeepsBlanks := fun _ _ hc => takes_nothing_of_isBlank hc

theorem leftover_clean (hclean : isClean f = true) (hs : Bytes.StartsBlank s)
    (before : Option Char) :
    borderPart.leftover before (f ++ s) = f ++ borderPart.leftover (lastChar before f.runes) s :=
  leftover_kept hs (fun _ _ _ hsplit => takes_nothing_of_isClean hclean hs hsplit) before

/-- An integer takes the blank and the word behind it along. -/
theorem takes_pair {c : Char} {w rest : List Rune} (hint : IsInteger f) (hc : isBlank c = true)
    (hline : c ≠ '\n') (hne : w ≠ []) (hword : ∀ r ∈ w, isWordChar r.char = true)
    (hrest : ∀ r ∈ rest.head?, isWordChar r.char = false) :
    borderPart.Takes (f.runes ++ Rune.ofChar c :: w).length
      ((f.runes ++ Rune.ofChar c :: w) ++ rest) := by
  refine takes_of_past (fun before => ?_) hrest
  refine past_lineWidth_marked
    (List.append_assoc f.runes (Rune.ofChar c :: w) rest) ?_ ?_ ?_ hline hne hword
    hrest
  · exact fun h => hint.1 (by rw [Bytes.chars, h]; rfl)
  · exact fun r hr => hint.2 _ (List.mem_map_of_mem hr)
  · exact isDigit_of_not_word (isWordChar_of_isBlank hc)

theorem takes_digits (hint : IsInteger f) (hlen : 2 ≤ f.chars.length) (hs : Bytes.StartsBlank s)
    (hstuck : IsStuck s.runes) : borderPart.Takes f.runes.length (f.runes ++ s.runes) := by
  refine takes_of_past (fun before => ?_) (notWord_of_startsBlank hs)
  refine past_lineWidth_digits rfl (by simpa [Bytes.chars] using hlen) ?_
    (notWord_of_startsBlank hs)
    hstuck
  exact fun r hr => hint.2 _ (List.mem_map_of_mem hr)

/-- **Deleting the parts of a text that comes apart leaves its clean fields.** -/
theorem Separable.fields_leftover (h : Separable s) : ∀ before,
    (borderPart.leftover before s).fields = s.fields.filter isClean := by
  induction h with
  | nil => exact fun before => rfl
  | @blank c s hc hs ih =>
    intro before
    rw [leftover_blank borderPart_keepsBlanks hc, Bytes.fields_blank hc, Bytes.fields_blank hc]
    exact ih _
  | @clean f s hf hclean hend hs ih =>
    intro before
    rw [leftover_clean hclean hend,
      Bytes.fields_append hf (startsBlank_leftover borderPart_keepsBlanks hend _), ih,
      Bytes.fields_append hf hend, List.filter_cons_of_pos hclean]
  | @part f s hf hpart hend hs ih =>
    intro before
    rw [leftover_field hf hend (takes_part hpart hend), ih, Bytes.fields_append hf hend,
      List.filter_cons_of_neg (by simp [isClean_of_isPart hpart])]
  | @digits f s hf hint hlen hend hstuck hs ih =>
    intro before
    rw [leftover_field hf hend (takes_digits hint hlen hend hstuck), ih,
      Bytes.fields_append hf hend, List.filter_cons_of_neg (by simp [hint.isClean])]
  | @pair f g s c hf hint hc hline hg hword hdrop hend hs ih =>
    intro before
    have hblank : Bytes.StartsBlank (String.utf8EncodeChar c ++ (g ++ s)) :=
      Bytes.startsBlank_encode hc _
    have hread : (f ++ (String.utf8EncodeChar c ++ (g ++ s))).runes =
        (f.runes ++ Rune.ofChar c :: g.runes) ++ s.runes := by
      rw [Bytes.runes_append_encode, Bytes.runes_append_startsBlank g hend]
      simp
    have htakes := takes_pair hint hc hline hg.runes_ne_nil
      (fun r hr => hword _ (List.mem_map_of_mem hr)) (notWord_of_startsBlank hend)
    rw [leftover_taken hread (by simp) htakes, ih,
      Bytes.fields_append hf hblank, Bytes.fields_blank hc, Bytes.fields_append hg hend,
      List.filter_cons_of_neg (by simp [hint.isClean]), List.filter_cons_of_neg (by simp [hdrop])]

/-- A border of two fields or more is what deleting its parts leaves. -/
theorem fields_normalize_border {property : Bytes} (hproperty : isBorder property = true)
    (hlen : 2 ≤ s.fields.length) :
    (normalize property s).fields = (borderPart.leftover none s).fields := by
  have hmany : 1 < s.fields.length := hlen
  rw [normalize, if_pos (by simp [hproperty, hmany]), Bytes.fields_trim]
  rfl

theorem Separable.fields_normalize {property : Bytes} (hs : Separable s)
    (hproperty : isBorder property = true) (hlen : 2 ≤ s.fields.length) :
    (normalize property s).fields = s.fields.filter isClean := by
  rw [fields_normalize_border hproperty hlen, hs.fields_leftover]

/-- Without integers a value comes apart. -/
theorem separable_of_fields (h : ∀ f ∈ s.fields, IsPart f ∨ isClean f = true) : Separable s := by
  induction s using Bytes.field_induction with
  | nil => exact .nil
  | blank c s hc ih =>
    rw [Bytes.fields_blank hc] at h
    exact .blank hc (ih h)
  | field f s hf hs ih =>
    rw [Bytes.fields_append hf hs] at h
    have hrest := ih fun g hg => h g (List.mem_cons_of_mem _ hg)
    rcases h f (by simp) with hpart | hclean
    · exact .part hf hpart hs hrest
    · exact .clean hf hclean hs hrest

end

/-- **A border keeps exactly its clean fields**, when the others are widths with a unit or a
fraction and line styles. Its literals are those clean fields that are no variables, written anew
from their characters: a byte that is no UTF-8 comes out as the replacement character. -/
theorem border_keeps_clean_fields {property value : Bytes} (hproperty : isBorder property = true)
    (hlen : 2 ≤ value.fields.length) (hfields : ∀ f ∈ value.fields, IsPart f ∨ isClean f = true) :
    (normalize property value).fields = value.fields.filter isClean ∧
    ((∀ f ∈ value.fields, isClean f = true → ∀ c ∈ f.chars, isQuote c = false) →
      ∀ exceptions : Option Pattern,
        (Verdict.judge exceptions property value).literals =
          ((value.fields.filter isClean).filter fun f => !isVariable f).map
            (fun f => Bytes.ofChars f.chars) ∧
        ((∀ f ∈ value.fields, isClean f = true → f.isWellFormed = true) →
          (Verdict.judge exceptions property value).literals =
            (value.fields.filter isClean).filter fun f => !isVariable f)) := by
  have hkeeps := (separable_of_fields hfields).fields_normalize hproperty hlen
  refine ⟨hkeeps, fun hquotes exceptions => ?_⟩
  have hliterals : (Verdict.judge exceptions property value).literals =
      ((value.fields.filter isClean).filter fun f => !isVariable f).map
        fun f => Bytes.ofChars f.chars := by
    rw [← hkeeps]
    refine Verdict.literalsOf_of_fields fun f hf => ?_
    rw [hkeeps, List.mem_filter] at hf
    exact hquotes f hf.1 hf.2
  refine ⟨hliterals, fun hwell => ?_⟩
  rw [hliterals]
  refine (List.map_congr_left fun f hf => ?_).trans (List.map_id _)
  rw [List.mem_filter, List.mem_filter] at hf
  exact Bytes.ofChars_chars (hwell f hf.1.1 hf.1.2)

def onePointFive : Length :=
  ⟨['1'], some ['5'], ['p', 'x'], by decide, forall_mem_of_all (by decide),
    by rintro _ ⟨⟩; exact forall_mem_of_all (by decide), forall_mem_of_all (by decide)⟩

def oneUnit : Length :=
  ⟨['1'], none, ['p', 'x'], by decide, forall_mem_of_all (by decide), by decide,
    forall_mem_of_all (by decide)⟩

theorem border_keeps_clean_fields_fourFields :
    (normalize "border-top" "1.5px red dashed $accent").fields = (["red", "$accent"] : List Bytes) ∧
      (Verdict.judge none "border-top" "1.5px red dashed $accent").literals =
        (["red"] : List Bytes) := by
  have hfields : Bytes.fields "1.5px red dashed $accent" =
      (["1.5px", "red", "dashed", "$accent"] : List Bytes) := by decide
  have hclean : (["1.5px", "red", "dashed", "$accent"] : List Bytes).filter isClean =
      ["red", "$accent"] := by decide
  obtain ⟨hkeeps, hliterals⟩ := border_keeps_clean_fields
    (show isBorder "border-top" = true by decide)
    (show 2 ≤ (Bytes.fields "1.5px red dashed $accent").length by rw [hfields]; decide) (by
      rw [hfields]
      intro f hf
      simp only [List.mem_cons, List.not_mem_nil, or_false] at hf
      rcases hf with rfl | rfl | rfl | rfl
      · exact .inl (.inl ⟨onePointFive, .inl (by decide), by decide⟩)
      · exact .inr (by decide)
      · exact .inl (.inr ⟨"dashed", by decide, by decide⟩)
      · exact .inr (by decide))
  rw [hfields, hclean] at hkeeps
  refine ⟨hkeeps, ((hliterals ?_ none).2 ?_).trans ?_⟩
  · rw [hfields]
    have hquotes : (["1.5px", "red", "dashed", "$accent"] : List Bytes).all (fun f =>
        f.chars.all fun c => decide (isQuote c = false)) = true := by decide
    exact fun f hf _ => forall_mem_of_all (List.all_eq_true.1 hquotes f hf)
  · rw [hfields]
    decide
  · rw [hfields, hclean]
    decide

/-- A clean field that is no UTF-8 is not among the literals as it was written. -/
theorem border_literals_rewritten :
    Bytes.fields [0x31, 0x70, 0x78, 0x20, 0xFF] = [[0x31, 0x70, 0x78], [0xFF]] ∧
      IsPart [0x31, 0x70, 0x78] ∧ isClean [0xFF] = true ∧
      (∀ c ∈ Bytes.chars [0xFF], isQuote c = false) ∧ isVariable [0xFF] = false ∧
      (Verdict.judge none "border" [0x31, 0x70, 0x78, 0x20, 0xFF]).literals =
        [[0xEF, 0xBF, 0xBD]] := by
  exact ⟨by decide, .inl ⟨oneUnit, .inl (by decide), by decide⟩, by decide,
    forall_mem_of_all (by decide), by decide, by decide⟩

end Value

end VarLint
