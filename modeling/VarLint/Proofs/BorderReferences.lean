import VarLint.Proofs.BorderShorthand

/-!
# Borders of widths, styles and variables

When a border of widths, line styles and references passes. All hangs on its integers: the wildcard
behind the digits of a width lets an integer take the word behind it along.

* `IntegerOutcome`, `integerOutcome`: all that can become of an integer and the text behind it
* `IsScrap`, `exists_scrap`: what a cut field leaves is no variable
* `separable_or_scrap`: a text comes apart, or leaves something that is no variable
* `border_passes_iff_separable`: a border passes exactly if it comes apart
-/

namespace VarLint.Value

open Regex

/-! ## The fields -/

/-- A width of a border. The unit may be missing; behind a point stands a digit. -/
def IsWidth (f : Bytes) : Prop := ∃ l : Length, l.fraction ≠ some [] ∧ f.chars = l.chars

/-- A line style. -/
def IsStyle (f : Bytes) : Prop := ∃ k ∈ lineStyles, f.chars = k.toList

/-- A reference to the variable of a name without line styles in it. -/
structure IsReference (f : Bytes) (name : List Char) : Prop where
  name_ne_nil : name ≠ []
  letters : ∀ c ∈ name, c.isAlpha = true ∨ c = '-'
  no_style : ∀ k ∈ lineStyles, ¬ k.toList <:+: name
  chars_eq : f.chars = "var".toList ++ ('(' :: '-' :: '-' :: (name ++ [')']))

/-- A width, a line style or a reference. -/
def IsBorderField (f : Bytes) : Prop := IsWidth f ∨ IsStyle f ∨ ∃ name, IsReference f name

theorem infix_of_infix_append_cons {k u v : List Char} {x : Char} (hx : x ∉ k)
    (h : k <:+: u ++ x :: v) : k <:+: u ∨ k <:+: v := by
  obtain ⟨a, b, hab⟩ := h
  rcases List.append_eq_append_iff.1 hab with ⟨t, rfl, -⟩ | ⟨t, hat, htb⟩
  · exact .inl ⟨a, t, rfl⟩
  · cases t with
    | nil => exact .inl ⟨a, [], by simpa using hat⟩
    | cons y t =>
      obtain ⟨rfl, rfl⟩ : x = y ∧ v = t ++ b := by simpa using htb
      rcases List.append_eq_append_iff.1 hat with ⟨s, rfl, hk⟩ | ⟨s, rfl, hk⟩
      · exact absurd (hk ▸ by simp) hx
      · cases s with
        | nil => exact absurd (show x ∈ k by simp at hk; simp [← hk]) hx
        | cons z s =>
          obtain ⟨-, rfl⟩ : x = z ∧ t = s ++ k := by simpa using hk
          exact .inr ⟨s, b, by simp⟩

section

variable {f s : Bytes} {name : List Char}

/-- A word that starts with a letter is not made of the signs around a name. -/
theorem not_infix_reference {x : Char} {k : List Char} (hx : x.isAlpha = true)
    (hparen : ')' ∉ x :: k) (hname : ¬ x :: k <:+: name) :
    ¬ x :: k <:+: '(' :: '-' :: '-' :: (name ++ [')']) := by
  have hskip : ∀ (y : Char) (cs : List Char), y.isAlpha = false → x :: k <:+: y :: cs →
      x :: k <:+: cs := by
    intro y cs hy h
    rcases List.infix_cons_iff.1 h with hpre | hin
    · rw [(List.cons_prefix_cons.1 hpre).1, hy] at hx
      cases hx
    · exact hin
  intro h
  have hlast := hskip '-' _ (by decide) (hskip '-' _ (by decide) (hskip '(' _ (by decide) h))
  rcases infix_of_infix_append_cons hparen hlast with hin | hin
  · exact hname hin
  · exact absurd (List.infix_nil.1 hin) (by simp)

theorem IsReference.isClean (hf : IsReference f name) : isClean f = true := by
  rw [isClean_iff, hf.chars_eq]
  constructor
  · intro c hc
    simp only [List.mem_append, List.mem_cons, List.not_mem_nil, or_false] at hc
    rcases hc with hc | rfl | rfl | rfl | hc | rfl
    · exact forall_mem_of_all (P := fun c => c.isDigit = false) (by decide) c hc
    · rfl
    · rfl
    · rfl
    · rcases hf.letters c hc with ha | rfl
      · exact isDigit_of_isAlpha ha
      · rfl
    · rfl
  · intro k hk h
    have halpha := isAlpha_of_mem_lineStyle hk
    have hparen : '(' ∉ k.toList := fun hmem => absurd (halpha _ hmem) (by decide)
    have hvar : ∀ k ∈ lineStyles, ¬ k.toList <:+: "var".toList := by decide
    rcases infix_of_infix_append_cons hparen h with h | h
    · exact hvar k hk h
    · obtain ⟨x, more, hx⟩ := List.exists_cons_of_ne_nil (lineStyle_ne_nil hk)
      have hclose : ')' ∉ k.toList := fun hmem => absurd (halpha _ hmem) (by decide)
      have hname := hf.no_style k hk
      rw [hx] at h hclose hname
      exact not_infix_reference (halpha x (by simp [hx])) hclose hname
        (h.trans (List.suffix_cons _ _).isInfix)

theorem IsReference.isVariable (hf : IsReference f name) : isVariable f = true := by
  rw [isVariable_iff, hf.chars_eq]
  exact .inr (.inr (.inr (List.prefix_append _ _).isInfix))

theorem IsWidth.part_or_integer (hf : IsWidth f) : IsPart f ∨ IsInteger f := by
  obtain ⟨l, hl, hchars⟩ := hf
  by_cases hclosed : l.IsClosed
  · exact .inl (.inl ⟨l, hclosed, hchars⟩)
  · rw [Length.IsClosed, not_or, not_not] at hclosed
    right
    cases hfraction : l.fraction with
    | none =>
      have hwhole : f.chars = l.whole := by simp [hchars, Length.chars, hfraction, hclosed.1]
      exact ⟨hwhole ▸ l.whole_ne_nil, hwhole ▸ l.isDigit_whole⟩
    | some ds =>
      refine absurd ⟨ds, hfraction, ?_⟩ hclosed.2
      rintro rfl
      exact hl hfraction

/-- The characters of the fields of a border. -/
def isBorderChar (c : Char) : Bool := isWordChar c || c == '.' || c == '(' || c == '-' || c == ')'

theorem IsBorderField.isBorderChar (hf : IsBorderField f) :
    ∀ c ∈ f.chars, isBorderChar c = true := by
  have hword : ∀ c : Char, isWordChar c = true → Value.isBorderChar c = true := by
    intro c hc
    simp [Value.isBorderChar, hc]
  have halpha : ∀ c : Char, c.isAlpha = true → Value.isBorderChar c = true :=
    fun c hc => hword c (isWordChar_of_isAlpha hc)
  have hdigit : ∀ c : Char, c.isDigit = true → Value.isBorderChar c = true :=
    fun c hc => hword c (isWordChar_of_isDigit hc)
  intro c hc
  rcases hf with ⟨l, -, hl⟩ | ⟨k, hk, hfk⟩ | ⟨name, hname⟩
  · rw [hl, Length.chars] at hc
    split at hc
    · rcases List.mem_append.1 hc with hc | hc
      · exact hdigit c (l.isDigit_whole c hc)
      · exact halpha c (l.isAlpha_unit c hc)
    · next ds hds =>
      simp only [List.mem_append, List.mem_cons] at hc
      rcases hc with hc | rfl | hc | hc
      · exact hdigit c (l.isDigit_whole c hc)
      · rfl
      · exact hdigit c (l.isDigit_fraction ds hds c hc)
      · exact halpha c (l.isAlpha_unit c hc)
  · exact halpha c (isAlpha_of_mem_lineStyle hk c (hfk ▸ hc))
  · rw [hname.chars_eq] at hc
    simp only [List.mem_append, List.mem_cons, List.not_mem_nil, or_false] at hc
    rcases hc with hc | rfl | rfl | rfl | hc | rfl
    · exact forall_mem_of_all (P := fun c => Value.isBorderChar c = true) (by decide) c hc
    · rfl
    · rfl
    · rfl
    · rcases hname.letters c hc with ha | rfl
      · exact halpha c ha
      · rfl
    · rfl

theorem ne_of_isBorderChar {c d : Char} (hc : Value.isBorderChar c = true)
    (hd : Value.isBorderChar d = false) :
    c ≠ d := by
  rintro rfl
  rw [hc] at hd
  cases hd

theorem isWellFormed_of_chars (h : ∀ c ∈ s.chars, c ≠ Rune.replacement) :
    s.isWellFormed = true := by
  rw [Bytes.isWellFormed, List.all_eq_true]
  intro r hr
  have hne := h r.char (List.mem_map_of_mem hr)
  simp [Rune.isMalformed, hne]

theorem IsBorderField.eq_ofChars (hf : IsBorderField f) : f = Bytes.ofChars f.chars := by
  refine (Bytes.ofChars_chars (isWellFormed_of_chars fun c hc => ?_)).symm
  exact ne_of_isBorderChar (hf.isBorderChar c hc) (by decide)

/-! ## What an integer does to the fields behind it -/

theorem notWord_of_head {c : Char} {cs : List Char} (hc : isWordChar c = false) :
    ∀ r ∈ (Bytes.runes (Bytes.ofChars (c :: cs) ++ s)).head?, isWordChar r.char = false := by
  rw [Bytes.runes_ofChars_append]
  simpa [Rune.ofChar] using hc

/-- An integer before a single blank takes the word behind it, and what follows the word is left to
itself. -/
theorem leftover_pair {c : Char} {w v : List Char} {t : Bytes} (hint : IsInteger f)
    (hc : isBlank c = true) (hline : c ≠ '\n') (hne : w ≠ []) (hword : ∀ d ∈ w, isWordChar d = true)
    (hv : ∀ r ∈ (Bytes.runes (Bytes.ofChars v ++ t)).head?, isWordChar r.char = false)
    (before : Option Char) : ∃ behind,
      borderPart.leftover before (f ++ (String.utf8EncodeChar c ++ (Bytes.ofChars (w ++ v) ++ t))) =
        borderPart.leftover behind (Bytes.ofChars v ++ t) := by
  refine ⟨_, leftover_taken (w := f.runes ++ Rune.ofChar c :: w.map Rune.ofChar) ?_ (by simp)
    (takes_pair hint hc hline (by simpa using hne) (by simpa [Rune.ofChar] using hword) hv) before⟩
  rw [Bytes.runes_append_encode, Bytes.runes_ofChars_append, Bytes.runes_ofChars_append]
  simp

theorem leftover_point (cs : List Char) (before : Option Char) :
    borderPart.leftover before (Bytes.ofChars ('.' :: cs) ++ s) =
      Bytes.ofChars ['.'] ++ borderPart.leftover (some '.') (Bytes.ofChars cs ++ s) := by
  have htakes : borderPart.Takes 0 (Rune.ofChar '.' :: (cs.map Rune.ofChar ++ s.runes)) :=
    takes_nothing (by rintro r ⟨⟩; rfl) fun k hk => not_prefix_of_lineStyle (by rintro c ⟨⟩; rfl) hk
  rw [leftover, Bytes.runes_ofChars_append, List.map_cons, List.cons_append, deleteFrom,
    htakes before, ← Bytes.runes_ofChars_append]
  rfl

/-- All that can become of an integer and the text behind it. -/
inductive IntegerOutcome (f s : Bytes) (before : Option Char) : Prop
  /-- It is deleted alone. -/
  | alone (behind : Option Char) (hstuck : IsStuck s.runes) (hlen : 2 ≤ f.chars.length)
      (h : borderPart.leftover before (f ++ s) = borderPart.leftover behind s)
  /-- It is kept, having one digit. -/
  | kept (behind : Option Char) (hlen : f.chars.length = 1)
      (h : borderPart.leftover before (f ++ s) = f ++ borderPart.leftover behind s)
  /-- It takes a whole word along. -/
  | word (behind : Option Char) {c : Char} {g t : Bytes}
      (hs : s = String.utf8EncodeChar c ++ (g ++ t))
      (hc : isBlank c = true) (hline : c ≠ '\n') (hg : Bytes.IsField g) (ht : Bytes.StartsBlank t)
      (hword : ∀ d ∈ g.chars, isWordChar d = true) (hdrop : isClean g = false)
      (h : borderPart.leftover before (f ++ s) = borderPart.leftover behind t)
  /-- It takes the front of a number, up to the point. -/
  | point (behind : Option Char) {c : Char} {g t : Bytes} {ds unit : List Char}
      (hs : s = String.utf8EncodeChar c ++ (g ++ t)) (hc : isBlank c = true) (hg : Bytes.IsField g)
      (ht : Bytes.StartsBlank t) (hne : ds ≠ [])
      (hds : ∀ d ∈ ds, d.isDigit = true) (hunit : ∀ d ∈ unit, d.isAlpha = true)
      (h : borderPart.leftover before (f ++ s) =
        Bytes.ofChars ['.'] ++ borderPart.leftover behind (Bytes.ofChars (ds ++ unit) ++ t))
  /-- It takes the name of a call, up to the parenthesis. -/
  | call (behind : Option Char) {c : Char} {g t : Bytes} {name : List Char}
      (hs : s = String.utf8EncodeChar c ++ (g ++ t)) (hc : isBlank c = true) (hg : Bytes.IsField g)
      (ht : Bytes.StartsBlank t) (hname : IsReference g name)
      (h : borderPart.leftover before (f ++ s) =
        Bytes.ofChars ('(' :: '-' :: '-' :: (name ++ [')'])) ++ borderPart.leftover behind t)

theorem takes_lone (hint : IsInteger f) (hlen : f.chars.length = 1) (hs : Bytes.StartsBlank s)
    (hstuck : IsStuck s.runes) : borderPart.Takes 0 (f.runes ++ s.runes) := by
  obtain ⟨d, hd⟩ : ∃ d, f.runes = [d] := by
    rw [← List.length_eq_one_iff]
    simpa [Bytes.chars] using hlen
  have hdigit : d.char.isDigit = true := hint.2 _ (by simp [Bytes.chars, hd])
  refine takes_of_head? (by simp) fun before => ?_
  rw [borderPart, head?_seq_opt, past_lineWidth_lone (d := d) (by rw [hd]; rfl) hdigit
    (notWord_of_startsBlank hs) hstuck, past_styles_none, Cursor.move_zero]
  intro k hk hpre
  obtain ⟨x, more, hk'⟩ := List.exists_cons_of_ne_nil (lineStyle_ne_nil hk)
  have hx : x = d.char := by
    rw [hk', hd] at hpre
    exact (List.cons_prefix_cons.1 hpre).1
  have halpha := isAlpha_of_mem_lineStyle hk x (by simp [hk'])
  rw [isDigit_of_isAlpha (hx ▸ halpha)] at hdigit
  cases hdigit

/-- A text behind an integer that is not stuck starts with one blank and a field. -/
theorem exists_field_of_not_stuck (hs : Bytes.StartsBlank s) (h : ¬ IsStuck s.runes) :
    ∃ c g t, isBlank c = true ∧ c ≠ '\n' ∧ Bytes.IsField g ∧ Bytes.StartsBlank t ∧
      s = String.utf8EncodeChar c ++ (g ++ t) := by
  simp only [IsStuck, not_forall, not_or, Bool.not_eq_false] at h
  obtain ⟨x, y, more, hrunes, hline, hword⟩ := h
  rcases hs with rfl | ⟨c, u, hc, rfl⟩
  · cases hrunes
  rw [Bytes.runes_encode_append, List.cons.injEq] at hrunes
  obtain ⟨rfl, hu⟩ := hrunes
  rcases Bytes.field_cases u with rfl | ⟨d, t, hd, rfl⟩ | ⟨g, t, hg, ht, rfl⟩
  · cases hu
  · rw [Bytes.runes_encode_append, List.cons.injEq] at hu
    rw [← hu.1] at hword
    exact absurd hword (by simpa [Rune.ofChar] using isWordChar_of_isBlank hd)
  · exact ⟨c, g, t, hc, hline, hg, ht, rfl⟩

theorem integerOutcome_stuck (hf : Bytes.IsField f) (hint : IsInteger f) (hs : Bytes.StartsBlank s)
    (hstuck : IsStuck s.runes) (before : Option Char) : IntegerOutcome f s before := by
  by_cases hlen : 2 ≤ f.chars.length
  · exact .alone _ hstuck hlen (leftover_field hf hs (takes_digits hint hlen hs hstuck) before)
  · have hone : f.chars.length = 1 := by
      have hpos := List.length_pos_iff.2 hint.1
      omega
    refine .kept (lastChar before f.runes) hone (leftover_kept hs (fun u x v hsplit => ?_) before)
    have hnil : u = [] := by
      have hlength := congrArg List.length hsplit
      rw [Bytes.chars, List.length_map] at hone
      rw [hone, List.length_append, List.length_cons] at hlength
      exact List.length_eq_zero_iff.1 (by omega)
    rw [hnil, List.nil_append] at hsplit
    rw [← hsplit]
    exact takes_lone hint hone hs hstuck

section

variable {c : Char} {g t : Bytes}

theorem integerOutcome_word (hint : IsInteger f) (hc : isBlank c = true) (hline : c ≠ '\n')
    (hg : Bytes.IsField g) (ht : Bytes.StartsBlank t) (hfield : IsBorderField g)
    (hword : ∀ d ∈ g.chars, isWordChar d = true) (hdrop : isClean g = false)
    (before : Option Char) :
    IntegerOutcome f (String.utf8EncodeChar c ++ (g ++ t)) before := by
  obtain ⟨behind, h⟩ := leftover_pair (v := []) hint hc hline hg.chars_ne_nil hword
    (notWord_of_startsBlank ht) before
  rw [List.append_nil, ← hfield.eq_ofChars] at h
  exact .word behind rfl hc hline hg ht hword hdrop h

theorem integerOutcome_width {l : Length} (hint : IsInteger f) (hc : isBlank c = true)
    (hline : c ≠ '\n') (hg : Bytes.IsField g) (ht : Bytes.StartsBlank t) (hl : l.fraction ≠ some [])
    (hchars : g.chars = l.chars) (before : Option Char) :
    IntegerOutcome f (String.utf8EncodeChar c ++ (g ++ t)) before := by
  have hfield : IsBorderField g := .inl ⟨l, hl, hchars⟩
  cases hfraction : l.fraction with
  | none =>
    obtain ⟨d, hd, hdigit⟩ := l.exists_digit
    refine integerOutcome_word hint hc hline hg ht hfield (fun d hd => ?_)
      (isClean_of_digit (hchars ▸ hd) hdigit) before
    rw [hchars, Length.chars, hfraction] at hd
    rcases List.mem_append.1 hd with hd | hd
    · exact isWordChar_of_isDigit (l.isDigit_whole d hd)
    · exact isWordChar_of_isAlpha (l.isAlpha_unit d hd)
  | some ds =>
    have hgtext : g = Bytes.ofChars (l.whole ++ '.' :: (ds ++ l.unit)) := by
      rw [hfield.eq_ofChars, hchars, Length.chars, hfraction]
    obtain ⟨behind, h⟩ := leftover_pair (v := '.' :: (ds ++ l.unit)) (t := t) hint hc hline
      l.whole_ne_nil (fun d hd => isWordChar_of_isDigit (l.isDigit_whole d hd))
      (notWord_of_head (by decide)) before
    rw [leftover_point, ← hgtext] at h
    exact .point _ rfl hc hg ht (by rintro rfl; exact hl hfraction)
      (l.isDigit_fraction ds hfraction) l.isAlpha_unit h

theorem integerOutcome_call (hint : IsInteger f) (hc : isBlank c = true) (hline : c ≠ '\n')
    (hg : Bytes.IsField g) (ht : Bytes.StartsBlank t) (hname : IsReference g name)
    (before : Option Char) :
    IntegerOutcome f (String.utf8EncodeChar c ++ (g ++ t)) before := by
  have hfield : IsBorderField g := .inr (.inr ⟨name, hname⟩)
  have hgtext : g = Bytes.ofChars ("var".toList ++ ('(' :: '-' :: '-' :: (name ++ [')']))) := by
    rw [hfield.eq_ofChars, hname.chars_eq]
  have hcallClean : isClean (Bytes.ofChars ('(' :: '-' :: '-' :: (name ++ [')']))) = true := by
    have hall := (isClean_iff g).1 hname.isClean
    rw [hname.chars_eq] at hall
    rw [isClean_iff, Bytes.chars_ofChars]
    exact ⟨fun d hd => hall.1 d (List.mem_append_right _ hd), fun k hk hin =>
      hall.2 k hk (hin.trans (List.suffix_append _ _).isInfix)⟩
  obtain ⟨behind, h⟩ := leftover_pair (v := '(' :: '-' :: '-' :: (name ++ [')']))
    (t := t) hint hc hline (by decide : "var".toList ≠ []) (forall_mem_of_all (by decide))
    (notWord_of_head (by decide)) before
  rw [leftover_clean hcallClean ht, ← hgtext] at h
  exact .call _ rfl hc hg ht hname h

end

/-- **What becomes of an integer is one of the outcomes.** -/
theorem integerOutcome (hf : Bytes.IsField f) (hint : IsInteger f) (hs : Bytes.StartsBlank s)
    (hfields : ∀ g ∈ s.fields, IsBorderField g) (before : Option Char) :
    IntegerOutcome f s before := by
  by_cases hstuck : IsStuck s.runes
  · exact integerOutcome_stuck hf hint hs hstuck before
  · obtain ⟨c, g, t, hc, hline, hg, ht, rfl⟩ := exists_field_of_not_stuck hs hstuck
    have hgfield : IsBorderField g := hfields g (by
      rw [Bytes.fields_blank hc, Bytes.fields_append hg ht]
      simp)
    rcases hgfield with ⟨l, hl, hchars⟩ | ⟨k, hk, hgk⟩ | ⟨name, hname⟩
    · exact integerOutcome_width hint hc hline hg ht hl hchars before
    · refine integerOutcome_word hint hc hline hg ht (.inr (.inl ⟨k, hk, hgk⟩)) (fun d hd => ?_)
        (isClean_of_isPart (.inr ⟨k, hk, hgk⟩)) before
      exact isWordChar_of_isAlpha (isAlpha_of_mem_lineStyle hk d (hgk ▸ hd))
    · exact integerOutcome_call hint hc hline hg ht hname before

end

/-! ## Scraps -/

/-- No variable can be read off the characters, nor do they end a field. -/
structure IsScrap (cs : List Char) : Prop where
  solid : ∀ c ∈ cs, isBlank c = false
  no_sign : ∀ c ∈ cs, c ≠ '$' ∧ c ≠ '@'
  no_get : ¬ "map-get".toList <:+: cs
  no_var : ¬ "var".toList <:+: cs

section

variable {f s : Bytes} {cs : List Char} {name : List Char}

theorem IsScrap.isVariable (h : IsScrap cs) : isVariable (Bytes.ofChars cs) = false := by
  by_contra hv
  rw [Bool.not_eq_false, isVariable_iff, Bytes.chars_ofChars] at hv
  rcases hv with hv | hv | hv | hv
  · exact (h.no_sign '$' (hv.subset (by decide))).1 rfl
  · exact h.no_get hv
  · exact (h.no_sign '@' (hv.subset (by decide))).2 rfl
  · exact h.no_var hv

theorem isScrap_nil : IsScrap [] := ⟨by simp, by simp, by decide, by decide⟩

theorem IsScrap.point (h : IsScrap cs) : IsScrap ('.' :: cs) where
  solid := by simpa using ⟨by decide, h.solid⟩
  no_sign := by simpa using h.no_sign
  no_get hin := by
    rcases infix_of_infix_append_cons (u := []) (by decide) hin with hin | hin
    · exact absurd hin (by decide)
    · exact h.no_get hin
  no_var hin := by
    rcases infix_of_infix_append_cons (u := []) (by decide) hin with hin | hin
    · exact absurd hin (by decide)
    · exact h.no_var hin

theorem isBlank_of_isDigit {c : Char} (h : c.isDigit = true) : isBlank c = false := by
  by_contra hb
  rw [Bool.not_eq_false] at hb
  rw [isDigit_of_not_word (isWordChar_of_isBlank hb)] at h
  cases h

theorem isScrap_digits (h : ∀ c ∈ cs, c.isDigit = true) : IsScrap cs where
  solid c hc := isBlank_of_isDigit (h c hc)
  no_sign c hc := ⟨by rintro rfl; exact absurd (h _ hc) (by decide), by
    rintro rfl; exact absurd (h _ hc) (by decide)⟩
  no_get hin := absurd (h 'm' (hin.subset (by decide))) (by decide)
  no_var hin := absurd (h 'v' (hin.subset (by decide))) (by decide)

/-- The name of a reference does not look like a reference itself. -/
def IsPlainName (name : List Char) : Prop :=
  ¬ "map-get".toList <:+: name ∧ ¬ "var".toList <:+: name

theorem isScrap_call (hname : IsReference f name) (hplain : IsPlainName name) :
    IsScrap ('(' :: '-' :: '-' :: (name ++ [')'])) where
  solid c hc := by
    by_contra hb
    rw [Bool.not_eq_false] at hb
    have hfield : IsBorderField f := .inr (.inr ⟨name, hname⟩)
    have hborder := hfield.isBorderChar c (by rw [hname.chars_eq]; exact List.mem_append_right _ hc)
    simp only [isBorderChar, isWordChar_of_isBlank hb, Bool.false_or, Bool.or_eq_true,
      beq_iff_eq] at hborder
    rcases hborder with ((rfl | rfl) | rfl) | rfl <;> exact absurd hb (by decide)
  no_sign c hc := by
    have hfield : IsBorderField f := .inr (.inr ⟨name, hname⟩)
    have hborder := hfield.isBorderChar c (by rw [hname.chars_eq]; exact List.mem_append_right _ hc)
    exact ⟨ne_of_isBorderChar hborder (by decide), ne_of_isBorderChar hborder (by decide)⟩
  no_get := not_infix_reference (by decide) (by decide) hplain.1
  no_var := not_infix_reference (by decide) (by decide) hplain.2

/-- The fields of a text are widths, styles and references with plain names. -/
def IsBorderText (s : Bytes) : Prop :=
  ∀ f ∈ s.fields, IsBorderField f ∧ ∀ name, IsReference f name → IsPlainName name

theorem IsBorderText.blank {c : Char} (hc : isBlank c = true)
    (h : IsBorderText (String.utf8EncodeChar c ++ s)) : IsBorderText s := by
  rw [IsBorderText, Bytes.fields_blank hc] at h
  exact h

theorem IsBorderText.field (hf : Bytes.IsField f) (hs : Bytes.StartsBlank s)
    (h : IsBorderText (f ++ s)) :
    IsBorderField f ∧ (∀ name, IsReference f name → IsPlainName name) ∧ IsBorderText s := by
  rw [IsBorderText, Bytes.fields_append hf hs] at h
  exact ⟨(h f (by simp)).1, (h f (by simp)).2, fun g hg => h g (List.mem_cons_of_mem _ hg)⟩

/-- **Behind the point of a number that was cut stands a scrap**, up to the next blank. -/
theorem exists_scrap {ds unit : List Char} (hne : ds ≠ []) (hds : ∀ d ∈ ds, d.isDigit = true)
    (hunit : ∀ d ∈ unit, d.isAlpha = true) (hs : Bytes.StartsBlank s) (htext : IsBorderText s)
    (before : Option Char) : ∃ cs t,
      borderPart.leftover before (Bytes.ofChars (ds ++ unit) ++ s) = Bytes.ofChars cs ++ t ∧
      IsScrap cs ∧
        Bytes.StartsBlank t := by
  induction hn : s.length using Nat.strongRecOn generalizing s ds unit before with
  | _ n ih =>
    have hsolid : ∀ d ∈ ds ++ unit, isBlank d = false := by
      intro d hd
      by_contra hb
      rw [Bool.not_eq_false] at hb
      have hword : isWordChar d = true := by
        rcases List.mem_append.1 hd with hd | hd
        · exact isWordChar_of_isDigit (hds d hd)
        · exact isWordChar_of_isAlpha (hunit d hd)
      rw [isWordChar_of_isBlank hb] at hword
      cases hword
    have hfield : Bytes.IsField (Bytes.ofChars (ds ++ unit)) := by
      refine ⟨fun h => ?_, by simpa using hsolid⟩
      have hchars := congrArg Bytes.chars h
      rw [Bytes.chars_ofChars] at hchars
      exact hne (List.append_eq_nil_iff.1 hchars).1
    cases unit with
    | cons x unit =>
      -- with a unit it is a width
      let l : Length := ⟨ds, none, x :: unit, hne, hds, by simp, hunit⟩
      have hpart : IsPart (Bytes.ofChars (ds ++ x :: unit)) :=
        .inl ⟨l, .inl (by simp [l]), Bytes.chars_ofChars _⟩
      have h := leftover_field hfield hs (takes_part hpart hs) before
      exact ⟨[], _, h, isScrap_nil, startsBlank_leftover borderPart_keepsBlanks hs _⟩
    | nil =>
      rw [List.append_nil] at hfield ⊢
      have hint : IsInteger (Bytes.ofChars ds) := by
        rw [IsInteger, Bytes.chars_ofChars]
        exact ⟨hne, hds⟩
      cases integerOutcome hfield hint hs (fun g hg => (htext g hg).1) before with
      | alone behind hstuck hlen h =>
        exact ⟨[], _, h, isScrap_nil, startsBlank_leftover borderPart_keepsBlanks hs _⟩
      | kept behind hlen h =>
        exact ⟨ds, _, h, isScrap_digits hds, startsBlank_leftover borderPart_keepsBlanks hs _⟩
      | word behind hsplit hc hline hg ht hword hdrop h =>
        exact ⟨[], _, h, isScrap_nil, startsBlank_leftover borderPart_keepsBlanks ht _⟩
      | point behind hsplit hc hg ht hne' hds' hunit' h =>
        subst hsplit
        obtain ⟨-, -, hrest⟩ := (htext.blank hc).field hg ht
        have hpos := List.length_pos_iff.2 hg.ne_nil
        obtain ⟨cs, u, hu, hscrap, hstart⟩ :=
          ih _ (by simp only [List.length_append] at hn; omega) hne' hds' hunit' ht hrest behind rfl
        refine ⟨'.' :: cs, u, ?_, hscrap.point, hstart⟩
        rw [h, hu, ← List.append_assoc]
        rfl
      | call behind hsplit hc hg ht hname h =>
        subst hsplit
        obtain ⟨-, hplain, -⟩ := (htext.blank hc).field hg ht
        exact ⟨_, _, h, isScrap_call hname (hplain _ hname),
          startsBlank_leftover borderPart_keepsBlanks ht _⟩

theorem fields_scrap {t : Bytes} (hcs : IsScrap cs) (hne : cs ≠ []) (ht : Bytes.StartsBlank t) :
    ∃ f ∈ Bytes.fields (Bytes.ofChars cs ++ t), isVariable f = false := by
  have hfield : Bytes.IsField (Bytes.ofChars cs) := by
    refine ⟨fun h => hne ?_, by simpa using hcs.solid⟩
    have hchars := congrArg Bytes.chars h
    rwa [Bytes.chars_ofChars] at hchars
  refine ⟨Bytes.ofChars cs, ?_, hcs.isVariable⟩
  rw [Bytes.fields_append hfield ht]
  simp

/-- **A text of such fields comes apart, or leaves something that is no variable.** -/
theorem separable_or_scrap (htext : IsBorderText s) (before : Option Char) :
    Separable s ∨ ∃ f ∈ (borderPart.leftover before s).fields, isVariable f = false := by
  induction hn : s.length using Nat.strongRecOn generalizing s before with
  | _ n ih =>
    rcases Bytes.field_cases s with rfl | ⟨c, t, hc, rfl⟩ | ⟨f, t, hf, ht, rfl⟩
    · exact .inl .nil
    · have hpos := Rune.length_encode_pos c
      rw [List.length_append] at hn
      rcases ih _ (by omega) (htext.blank hc) (some c) rfl with h | h
      · exact .inl (.blank hc h)
      · right
        rw [leftover_blank borderPart_keepsBlanks hc, Bytes.fields_blank hc]
        exact h
    · obtain ⟨hfield, hplain, hrest⟩ := htext.field hf ht
      have hlen := List.length_pos_iff.2 hf.ne_nil
      rw [List.length_append] at hn
      -- what a field leaves behind it, and what comes of the rest
      have htaken : IsPart f → Separable (f ++ t) ∨
          ∃ g ∈ (borderPart.leftover before (f ++ t)).fields, isVariable g = false := by
        intro hpart
        rw [leftover_field hf ht (takes_part hpart ht)]
        exact (ih _ (by omega) hrest _ rfl).imp_left (.part hf hpart ht)
      rcases hfield with hwidth | ⟨k, hk, hfk⟩ | ⟨name, hname⟩
      · rcases hwidth.part_or_integer with hpart | hint
        · exact htaken hpart
        cases integerOutcome hf hint ht (fun g hg => (hrest g hg).1) before with
        | alone behind hstuck hlen' h =>
          rw [h]
          exact (ih _ (by omega) hrest behind rfl).imp_left (.digits hf hint hlen' ht hstuck)
        | kept behind hlen' h =>
          right
          rw [h, Bytes.fields_append hf (startsBlank_leftover borderPart_keepsBlanks ht _)]
          have hf' : f = Bytes.ofChars f.chars := IsBorderField.eq_ofChars (.inl hwidth)
          exact ⟨f, by simp, hf' ▸ (isScrap_digits hint.2).isVariable⟩
        | word behind hsplit hc hline hg ht' hword hdrop h =>
          subst hsplit
          obtain ⟨-, -, hrest'⟩ := (hrest.blank hc).field hg ht'
          rw [h]
          exact (ih _ (by simp only [List.length_append] at hn; omega) hrest' behind rfl).imp_left
            (.pair hf hint hc hline hg hword hdrop ht')
        | point behind hsplit hc hg ht' hne hds hunit h =>
          subst hsplit
          obtain ⟨-, -, hrest'⟩ := (hrest.blank hc).field hg ht'
          obtain ⟨cs, u, hu, hscrap, hstart⟩ := exists_scrap hne hds hunit ht' hrest' behind
          right
          rw [h, hu, ← List.append_assoc]
          exact fields_scrap hscrap.point (by simp) hstart
        | call behind hsplit hc hg ht' hname h =>
          subst hsplit
          obtain ⟨-, hplain', -⟩ := (hrest.blank hc).field hg ht'
          right
          rw [h]
          exact fields_scrap (isScrap_call hname (hplain' _ hname)) (by simp)
            (startsBlank_leftover borderPart_keepsBlanks ht' _)
      · exact htaken (.inr ⟨k, hk, hfk⟩)
      · rw [leftover_clean hname.isClean ht,
          Bytes.fields_append hf (startsBlank_leftover borderPart_keepsBlanks ht _)]
        refine (ih _ (by omega) hrest (lastChar before f.runes) rfl).imp
          (.clean hf hname.isClean ht) ?_
        rintro ⟨g, hg, hv⟩
        exact ⟨g, List.mem_cons_of_mem _ hg, hv⟩

/-! ## Acceptance -/

theorem mem_chars_leftover {c : Char} (hs : s.isWellFormed = true) {before : Option Char}
    (hc : c ∈ (borderPart.leftover before s).chars) : c ∈ s.chars := by
  have hrunes : s.runes = s.chars.map Rune.ofChar := by
    rw [← Bytes.runes_ofChars, Bytes.ofChars_chars hs]
  have hsub := deleteFrom_sublist borderPart s.runes 0 before
  rw [hrunes] at hsub
  obtain ⟨cs, hcs, hleft⟩ := List.sublist_map_iff.1 hsub
  have htext : borderPart.leftover before s = Bytes.ofChars cs := by
    rw [leftover, hrunes, hleft, Bytes.ofRunes, List.flatMap_map]
    rfl
  rw [htext, Bytes.chars_ofChars] at hc
  exact hcs.subset hc

theorem isQuote_of_isBorderChar {c : Char} (h : Value.isBorderChar c = true) :
    isQuote c = false := by
  simp [isQuote, ne_of_isBorderChar h (d := '\'') (by decide),
    ne_of_isBorderChar h (d := '"') (by decide)]

/-- Nothing that is left of a border holds a quote. -/
theorem isQuote_normalize_border {property : Bytes} (hproperty : isBorder property = true)
    (hlen : 2 ≤ s.fields.length) (hfields : ∀ f ∈ s.fields, IsBorderField f) :
    ∀ f ∈ (normalize property s).fields, ∀ c ∈ f.chars, isQuote c = false := by
  have hchar : ∀ c ∈ s.chars, isQuote c = false ∧ c ≠ Rune.replacement := by
    intro c hc
    rcases Bytes.mem_chars hc with hblank | ⟨f, hf, hcf⟩
    · refine ⟨isQuote_of_isBlank hblank, ?_⟩
      rintro rfl
      rw [Bytes.isBlank_replacement] at hblank
      cases hblank
    · have hborder := (hfields f hf).isBorderChar c hcf
      exact ⟨isQuote_of_isBorderChar hborder, ne_of_isBorderChar hborder (by decide)⟩
  intro f hf c hc
  rw [fields_normalize_border hproperty hlen] at hf
  have hwell : s.isWellFormed = true := isWellFormed_of_chars fun d hd => (hchar d hd).2
  exact (hchar c (mem_chars_leftover hwell (Bytes.mem_chars_of_mem_fields hf hc))).1

end

/-- **When a border of widths, line styles and references passes.** It passes if its fields come
apart, and only then as long as no name looks like a reference itself. -/
theorem border_passes_iff_separable {property value : Bytes} (hproperty : isBorder property = true)
    (hlen : 2 ≤ value.fields.length) (hfields : ∀ f ∈ value.fields, IsBorderField f) :
    (Separable value → (Verdict.judge none property value).accepted = true) ∧
    ((∀ f ∈ value.fields, ∀ name, IsReference f name → IsPlainName name) →
      (Verdict.judge none property value).accepted = true → Separable value) := by
  rw [Verdict.accepted_none_iff (isQuote_normalize_border hproperty hlen hfields)]
  constructor
  · intro hsep f hf
    rw [hsep.fields_normalize hproperty hlen, List.mem_filter] at hf
    rcases hfields f hf.1 with hwidth | ⟨k, hk, hfk⟩ | ⟨name, hname⟩
    · rcases hwidth.part_or_integer with hpart | hint
      · exact absurd hf.2 (by simp [isClean_of_isPart hpart])
      · exact absurd hf.2 (by simp [hint.isClean])
    · exact absurd hf.2 (by simp [isClean_of_isPart (.inr ⟨k, hk, hfk⟩)])
    · exact hname.isVariable
  · intro hplain hall
    rcases separable_or_scrap (fun f hf => ⟨hfields f hf, hplain f hf⟩) none with hsep | ⟨f, hf, hv⟩
    · exact hsep
    · rw [← fields_normalize_border hproperty hlen] at hf
      rw [hall f hf] at hv
      cases hv

private def zero : Length :=
  { oneUnit with
    whole := ['0'], unit := [], whole_ne_nil := by simp,
    isDigit_whole := forall_mem_of_all (by decide),
    isAlpha_unit := by simp }

private def oneAndHalf : Length := { onePointFive with unit := [], isAlpha_unit := by simp }

private theorem isReference_tone : IsReference "var(--tone)" "tone".toList :=
  ⟨by decide, forall_mem_of_all (by decide), by decide, by decide⟩

private theorem isReference_a : IsReference "var(--a)" "a".toList :=
  ⟨by decide, forall_mem_of_all (by decide), by decide, by decide⟩

theorem border_passes_iff_separable_zeroSolid :
    Separable "0 solid var(--tone) 1.5" ∧
      (Verdict.judge none "border" "0 solid var(--tone) 1.5").accepted = true := by
  have hfields : Bytes.fields "0 solid var(--tone) 1.5" =
      (["0", "solid", "var(--tone)", "1.5"] : List Bytes) := by decide
  have htext : ("0 solid var(--tone) 1.5" : Bytes) = ("0" : Bytes) ++ (String.utf8EncodeChar ' ' ++
      (("solid" : Bytes) ++ (String.utf8EncodeChar ' ' ++ (("var(--tone)" : Bytes) ++
        (String.utf8EncodeChar ' ' ++ (("1.5" : Bytes) ++ [])))))) := by decide
  have hsep : Separable "0 solid var(--tone) 1.5" := by
    rw [htext]
    refine .pair ⟨by decide, forall_mem_of_all (by decide)⟩
      ⟨by decide, forall_mem_of_all (by decide)⟩
      (by decide) (by decide) ⟨by decide, forall_mem_of_all (by decide)⟩
      (forall_mem_of_all (by decide))
      (by decide) (Bytes.startsBlank_encode (by decide) _) (.blank (by decide) ?_)
    refine .clean ⟨by decide, forall_mem_of_all (by decide)⟩ (by decide)
      (Bytes.startsBlank_encode (by decide) _) (.blank (by decide) ?_)
    exact .part ⟨by decide, forall_mem_of_all (by decide)⟩
      (.inl ⟨oneAndHalf, .inr ⟨['5'], rfl, by decide⟩, by decide⟩)
      Bytes.startsBlank_nil .nil
  refine ⟨hsep, (border_passes_iff_separable (by decide) (by rw [hfields]; decide) ?_).1 hsep⟩
  rw [hfields]
  intro f hf
  simp only [List.mem_cons, List.not_mem_nil, or_false] at hf
  rcases hf with rfl | rfl | rfl | rfl
  · exact .inl ⟨zero, by decide, by decide⟩
  · exact .inr (.inl ⟨"solid", by decide, by decide⟩)
  · exact .inr (.inr ⟨_, isReference_tone⟩)
  · exact .inl ⟨oneAndHalf, by decide, by decide⟩

/-- A zero before a reference takes the name of the call along, and the border is rejected. -/
theorem border_zero_before_reference :
    Bytes.fields "0 var(--a)" = (["0", "var(--a)"] : List Bytes) ∧
      (∀ f ∈ Bytes.fields "0 var(--a)", IsBorderField f) ∧
      normalize "border" "0 var(--a)" = "(--a)" ∧
      (Verdict.judge none "border" "0 var(--a)").accepted = false := by
  have hfields : Bytes.fields "0 var(--a)" = (["0", "var(--a)"] : List Bytes) := by decide
  refine ⟨hfields, ?_, by decide, by decide⟩
  rw [hfields]
  intro f hf
  simp only [List.mem_cons, List.not_mem_nil, or_false] at hf
  rcases hf with rfl | rfl
  · exact .inl ⟨zero, by decide, by decide⟩
  · exact .inr (.inr ⟨_, isReference_a⟩)

end VarLint.Value
