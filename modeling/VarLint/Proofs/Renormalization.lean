import VarLint.Proofs.BackgroundShorthand
import VarLint.Proofs.BorderShorthand
import VarLint.Proofs.Seams

/-!
# Normalizing again

A normalized value changes when it is normalized again if what was deleted stood inside another
part: `solid` in `sosolidlid`.

* `IsBorderPart`, `IsBackgroundPart`: the texts that are deleted
* `recognizes_borderPart`, `recognizes_backgroundPart`: something is deleted exactly where such a
  text starts
* `not_infix_border`, `not_infix_background`: without a seam in a keyword none of them is left
* `normalize_again`: when normalizing again changes nothing
-/

namespace VarLint.Value

open Regex

/-! ## Parts -/

/-- The texts that are deleted from a border: a width, which is digits and a word with at most one
character between them, or a line style. -/
inductive IsBorderPart : List Char → Prop
  | width {digits word : List Char} {mark : Option Char} (hdigits : IsRun Char.isDigit digits)
      (hmark : mark ≠ some '\n') (hword : IsRun isWordChar word) :
      IsBorderPart (digits ++ (mark.toList ++ word))
  | style {k : String} (hk : k ∈ lineStyles) : IsBorderPart k.toList

/-- The texts that are deleted from a background: a keyword, digits with a word or a percent sign
behind them, or an image. -/
inductive IsBackgroundPart : List Char → Prop
  | keyword {k : String} (hk : k ∈ sides ++ repetitions) : IsBackgroundPart k.toList
  | measure {digits unit : List Char} (hdigits : IsRun Char.isDigit digits)
      (hunit : IsRun isWordChar unit ∨ unit = ['%']) : IsBackgroundPart (digits ++ unit)
  | image {text : List Char} (htext : IsRun (· != '\n') text) :
      IsBackgroundPart ("url(".toList ++ (text ++ [')']))

section

variable {v : List Char}

theorem IsBorderPart.starts_word (h : IsBorderPart v) :
    ∃ c cs, v = c :: cs ∧ isWordChar c = true := by
  cases h with
  | width hdigits hmark hword =>
    obtain ⟨d, ds, rfl, hd⟩ := hdigits.exists_cons
    exact ⟨d, _, rfl, isWordChar_of_isDigit hd⟩
  | @style k hk =>
    obtain ⟨c, cs, hcs⟩ := List.exists_cons_of_ne_nil (lineStyle_ne_nil hk)
    exact ⟨c, cs, hcs, isWordChar_of_isAlpha (isAlpha_of_mem_lineStyle hk c (by simp [hcs]))⟩

theorem IsBackgroundPart.starts_word (h : IsBackgroundPart v) :
    ∃ c cs, v = c :: cs ∧ isWordChar c = true := by
  cases h with
  | @keyword k hk =>
    have hfirst : ∀ k ∈ sides ++ repetitions, k.toList.head?.any isWordChar = true := by decide
    have hk := hfirst k hk
    cases hcs : k.toList with
    | nil => simp [hcs] at hk
    | cons c cs => exact ⟨c, cs, rfl, by simpa [hcs] using hk⟩
  | measure hdigits hunit =>
    obtain ⟨d, ds, rfl, hd⟩ := hdigits.exists_cons
    exact ⟨d, _, rfl, isWordChar_of_isDigit hd⟩
  | image htext => exact ⟨'u', _, rfl, by decide⟩

end

/-! ## Where something is deleted -/

theorem spans_digits : (Regex.plus .digit).Spans (IsRun Char.isDigit) := by
  rw [← show CharClass.contains (.ofItem CharClass.digitItem) = Char.isDigit from
    funext CharClass.contains_digit]
  exact spans_plus_char _

theorem spans_word : (Regex.plus .wordChar).Spans (IsRun isWordChar) := by
  rw [← show CharClass.contains (.ofItem CharClass.wordItem) = isWordChar from
    funext CharClass.contains_word]
  exact spans_plus_char _

theorem spans_line : (Regex.plus (.char .anyButNewline)).Spans (IsRun (· != '\n')) := by
  rw [← show CharClass.contains .anyButNewline = (· != '\n') from
    funext CharClass.contains_anyButNewline]
  exact spans_plus_char _

theorem spans_mark : (Regex.opt (.char .anyButNewline)).Spans
    fun v => ∃ mark : Option Char, v = mark.toList ∧ mark ≠ some '\n' := by
  refine (spans_char _).opt.congr fun v => ?_
  constructor
  · rintro (⟨c, rfl, hc⟩ | rfl)
    · exact ⟨some c, rfl, by simpa using hc⟩
    · exact ⟨none, rfl, by simp⟩
  · rintro ⟨_ | c, rfl, hc⟩
    · exact .inr rfl
    · exact .inl ⟨c, rfl, by simpa using hc⟩

/-- **Something is deleted from a border** exactly where a width or a line style starts. -/
theorem recognizes_borderPart : borderPart.Recognizes IsBorderPart := by
  have hwidth := spans_digits.seq (spans_mark.seq spans_word)
  refine (hwidth.recognizes (spans_choice lineStyles) (by decide) (by decide)).congr fun v => ?_
  constructor
  · rintro (⟨digits, _, rfl, hdigits, _, word, rfl, ⟨mark, rfl, hmark⟩, hword⟩ | ⟨k, hk, rfl⟩)
    · exact .width hdigits hmark hword
    · exact .style hk
  · rintro (⟨hdigits, hmark, hword⟩ | hk)
    · exact .inl ⟨_, _, rfl, hdigits, _, _, rfl, ⟨_, rfl, hmark⟩, hword⟩
    · exact .inr ⟨_, hk, rfl⟩

theorem spans_position : position.Spans fun v => (∃ k ∈ sides, v = k.toList) ∨
    ∃ digits unit, v = digits ++ unit ∧ IsRun Char.isDigit digits ∧
      (IsRun isWordChar unit ∨ unit = ['%']) := by
  intro p q
  rw [ends_position]
  exact (spans_choice sides).alt (spans_digits.seq (spans_word.alt (spans_literal "%"))) p q

theorem spans_image : image.Spans fun v => ∃ text, v = "url(".toList ++ (text ++ [')']) ∧
    IsRun (· != '\n') text := by
  refine ((spans_literal "url(").seq (spans_line.seq (spans_literal ")"))).congr fun v => ?_
  constructor
  · rintro ⟨_, _, rfl, rfl, text, _, rfl, htext, rfl⟩
    exact ⟨text, rfl, htext⟩
  · rintro ⟨text, rfl, htext⟩
    exact ⟨_, _, rfl, rfl, text, _, rfl, htext, rfl⟩

/-- **Something is deleted from a background** exactly where a keyword, a measure or an image
starts. -/
theorem recognizes_backgroundPart : backgroundPart.Recognizes IsBackgroundPart := by
  have hparts := spans_position.recognizes_star (spans_choice repetitions) spans_image
    (by decide) (by decide)
    (by decide)
  refine hparts.congr fun v => ?_
  constructor
  · rintro ((⟨k, hk, rfl⟩ | ⟨digits, unit, rfl, hdigits, hunit⟩) | ⟨k, hk, rfl⟩ |
      ⟨text, rfl, htext⟩)
    · exact .keyword (List.mem_append_left _ hk)
    · exact .measure hdigits hunit
    · exact .keyword (List.mem_append_right _ hk)
    · exact .image htext
  · rintro (hk | ⟨hdigits, hunit⟩ | htext)
    · exact (List.mem_append.1 hk).elim (fun hk => .inl (.inl ⟨_, hk, rfl⟩))
        fun hk => .inr (.inl ⟨_, hk, rfl⟩)
    · exact .inl (.inr ⟨_, _, rfl, hdigits, hunit⟩)
    · exact .inr (.inr ⟨_, rfl, htext⟩)

/-! ## What is left -/

/-- Two characters that stand together in a keyword, or in the name of an image. -/
def Joins (property : Bytes) (a b : Char) : Prop :=
  a.isAlpha = true ∧ (b.isAlpha = true ∨ isBackground property = true ∧ b = '(')

instance (property : Bytes) (a b : Char) : Decidable (Joins property a b) :=
  inferInstanceAs (Decidable (_ ∧ _))

section

variable {property : Bytes} {before : Option Char} {x : Rune} {xs : List Rune} {v : List Char}

theorem isChain_joins (property : Bytes) (hv : ∀ c ∈ v, c.isAlpha = true) :
    v.IsChain (Joins property) :=
  (List.pairwise_of_forall_mem_list fun a ha b hb => ⟨hv a ha, .inl (hv b hb)⟩).isChain

/-- A keyword that is left at a rune that is kept stood there. -/
theorem prefix_of_left {r : Regex} (hx : r.keeps before (x :: xs) = true)
    (hseams : ∀ s ∈ r.seamsFrom 0 before (x :: xs), ¬ Joins property s.1 s.2)
    (hv : v.IsChain (Joins property))
    (hpre : v <+: x.char :: (r.deleteFrom 0 (some x.char) xs).map Rune.char) :
    v <+: (x :: xs).map Rune.char := by
  cases v with
  | nil => exact List.nil_prefix
  | cons c v =>
    obtain ⟨rfl, hrest⟩ := List.cons_prefix_cons.1 hpre
    obtain ⟨w, rest, last, rfl, rfl, -⟩ := exists_standing hx hseams hv hrest
    simp

/-- A character that is in no word is kept. -/
theorem deleteFrom_cons_of_not_word {r : Regex} {Part : List Char → Prop} (hr : r.Recognizes Part)
    (hword : ∀ v, Part v → ∃ c cs, v = c :: cs ∧ isWordChar c = true)
    (hx : isWordChar x.char = false) (before : Option Char) :
    r.deleteFrom 0 before (x :: xs) = x :: r.deleteFrom 0 (some x.char) xs := by
  refine deleteFrom_cons_of_keeps ((hr before (x :: xs)).2 ?_)
  intro v hv hpre
  obtain ⟨c, cs, rfl, hc⟩ := hword v hv
  obtain ⟨rfl, -⟩ := List.cons_prefix_cons.1 hpre
  rw [hx] at hc
  cases hc

theorem not_prefix_lone_digit (hx : borderPart.keeps before (x :: xs) = true)
    (hd : x.char.isDigit = true) {mark : Option Char} {word : List Char} (hmark : mark ≠ some '\n')
    (hword : IsRun isWordChar word) :
    ¬ mark.toList ++ word <+: (borderPart.deleteFrom 0 (some x.char) xs).map Rune.char := by
  have hkept : ∀ {y : Rune} {ys : List Rune}, isWordChar y.char = false → ∀ before,
      borderPart.deleteFrom 0 before (y :: ys) = y :: borderPart.deleteFrom 0 (some y.char) ys :=
    deleteFrom_cons_of_not_word recognizes_borderPart fun v hv => hv.starts_word
  have hnone := (recognizes_borderPart before (x :: xs)).1 hx
  obtain ⟨c, cs, rfl, hc⟩ := hword.exists_cons
  -- what stands directly behind the digit is in no word, and so is kept
  intro hpre
  cases xs with
  | nil => cases mark <;> simp [deleteFrom] at hpre
  | cons y ys =>
    by_cases hy : isWordChar y.char = true
    · have hwidth := @IsBorderPart.width [x.char] [y.char] none (.singleton hd) (by simp)
        (.singleton hy)
      exact hnone _ hwidth (by simp)
    rw [Bool.not_eq_true] at hy
    rw [hkept hy] at hpre
    cases mark with
    | none =>
      obtain ⟨rfl, -⟩ := List.cons_prefix_cons.1 hpre
      rw [hy] at hc
      cases hc
    | some m =>
      obtain ⟨rfl, hrest⟩ := List.cons_prefix_cons.1 hpre
      cases ys with
      | nil => simp [deleteFrom] at hrest
      | cons z zs =>
        by_cases hz : isWordChar z.char = true
        · have hwidth := @IsBorderPart.width [x.char] [z.char] (some y.char) (.singleton hd) hmark
            (.singleton hz)
          exact hnone _ hwidth (by simp)
        rw [Bool.not_eq_true] at hz
        rw [hkept hz] at hrest
        obtain ⟨rfl, -⟩ := List.cons_prefix_cons.1 hrest
        rw [hz] at hc
        cases hc

/-- **Without a seam in a keyword, nothing that is deleted from a border is left.** -/
theorem not_infix_border {rs : List Rune}
    (hseams : ∀ s ∈ borderPart.seamsFrom 0 before rs, ¬ Joins property s.1 s.2) :
    ∀ v, IsBorderPart v → ¬ v <:+: (borderPart.deleteFrom 0 before rs).map Rune.char := by
  -- digits behind digits are left already, so only the last digit of a width is looked at
  refine not_infix_of_step ?_ ?_ 0 before rs hseams
  · intro v hv
    obtain ⟨c, cs, rfl, -⟩ := hv.starts_word
    simp
  · intro before x xs hx hseams hbehind v hv hpre
    have hnone := (recognizes_borderPart before (x :: xs)).1 hx
    cases hv with
    | @style k hk =>
      exact hnone _ (.style hk)
        (prefix_of_left hx hseams (isChain_joins property (isAlpha_of_mem_lineStyle hk)) hpre)
    | @width digits word mark hdigits hmark hword =>
      obtain ⟨d, ds, rfl, hd⟩ := hdigits.exists_cons
      obtain ⟨rfl, hleft⟩ := List.cons_prefix_cons.1 hpre
      cases ds with
      | nil => exact not_prefix_lone_digit hx hd hmark hword hleft
      | cons d' ds => exact hbehind _ (.width hdigits.tail hmark hword) hleft.isInfix

theorem not_prefix_lone_measure (hx : backgroundPart.keeps before (x :: xs) = true)
    (hd : x.char.isDigit = true) {unit : List Char} (hunit : IsRun isWordChar unit ∨ unit = ['%']) :
    ¬ unit <+: (backgroundPart.deleteFrom 0 (some x.char) xs).map Rune.char := by
  have hnone := (recognizes_backgroundPart before (x :: xs)).1 hx
  obtain ⟨c, cs, rfl, hc⟩ : ∃ c cs, unit = c :: cs ∧ (isWordChar c = true ∨ c = '%') := by
    rcases hunit with hword | rfl
    · obtain ⟨c, cs, rfl, hc⟩ := hword.exists_cons
      exact ⟨c, cs, rfl, .inl hc⟩
    · exact ⟨'%', [], rfl, .inr rfl⟩
  intro hpre
  cases xs with
  | nil => simp [deleteFrom] at hpre
  | cons y ys =>
    have hy : ¬ (isWordChar y.char = true ∨ y.char = '%') := by
      intro hy
      have hmeasure := @IsBackgroundPart.measure [x.char] [y.char] (.singleton hd)
        (hy.imp .singleton fun h => by rw [h])
      exact hnone _ hmeasure (by simp)
    rw [not_or, Bool.not_eq_true] at hy
    rw [deleteFrom_cons_of_not_word recognizes_backgroundPart
      (fun v hv => hv.starts_word) hy.1] at hpre
    obtain ⟨rfl, -⟩ := List.cons_prefix_cons.1 hpre
    simp [hy] at hc

/-- An image that is left at a rune that is kept stood there, perhaps with more in it. -/
theorem not_prefix_image (hproperty : isBackground property = true)
    (hx : backgroundPart.keeps before (x :: xs) = true)
    (hseams : ∀ s ∈ backgroundPart.seamsFrom 0 before (x :: xs), ¬ Joins property s.1 s.2)
    {text : List Char} (htext : IsRun (· != '\n') text) :
    ¬ "url(".toList ++ (text ++ [')']) <+:
      x.char :: (backgroundPart.deleteFrom 0 (some x.char) xs).map Rune.char := by
  have hnone := (recognizes_backgroundPart before (x :: xs)).1 hx
  have hname : (['u', 'r', 'l', '('] : List Char).IsChain (Joins property) := by
    simp [Joins, hproperty]
  have hline : ∀ c, backgroundPart.mayTake c = true → (c != '\n') = true := by
    rintro c hc
    rw [bne_iff_ne]
    rintro rfl
    exact absurd hc (by decide)
  intro hpre
  rw [show "url(".toList = ['u', 'r', 'l', '('] from rfl] at hpre
  obtain ⟨hu, hinner⟩ := List.cons_prefix_cons.1 hpre
  obtain ⟨w, rest, last, rfl, hw, hleft⟩ := exists_standing (v := ['r', 'l', '(']) hx hseams
    (hu ▸ hname)
    ((List.prefix_append _ _).trans hinner)
  -- the name stood there, and so did the rest of the line
  obtain ⟨t, ht⟩ := hinner
  rw [hleft, List.map_append, hw] at ht
  have hbody : (backgroundPart.deleteFrom 0 last rest).map Rune.char = text ++ (')' :: t) := by
    simpa using ht.symm
  obtain ⟨bs, _, hdelete, rfl, hclose⟩ := List.map_eq_append_iff.1 hbody
  obtain ⟨y, more, rfl, hy, -⟩ := List.map_eq_cons_iff.1 hclose
  obtain ⟨cs, rest, rfl, hcs, hlen⟩ := exists_before_left hline 0 last rest (by simp) hdelete
    (by simpa using htext.all_ok)
  refine hnone _ (@IsBackgroundPart.image (cs.map Rune.char) ⟨?_, by simpa using hcs⟩) ?_
  · have hpos : 0 < bs.length := List.length_pos_iff.2 (by simpa using htext.ne_nil)
    rw [Ne, List.map_eq_nil_iff, ← List.length_eq_zero_iff]
    omega
  · simp [← hu, hw, hy]

theorem not_infix_background {rs : List Rune} (hproperty : isBackground property = true)
    (hseams : ∀ s ∈ backgroundPart.seamsFrom 0 before rs, ¬ Joins property s.1 s.2) :
    ∀ v, IsBackgroundPart v → ¬ v <:+: (backgroundPart.deleteFrom 0 before rs).map Rune.char := by
  refine not_infix_of_step ?_ ?_ 0 before rs hseams
  · intro v hv
    obtain ⟨c, cs, rfl, -⟩ := hv.starts_word
    simp
  · intro before x xs hx hseams hbehind v hv hpre
    have hnone := (recognizes_backgroundPart before (x :: xs)).1 hx
    cases hv with
    | @keyword k hk =>
      have hletters : ∀ k ∈ sides ++ ["repeat"], ∀ c ∈ k.toList, c.isAlpha = true :=
        forall_mem_words (by decide)
      have hsplit : ∀ k ∈ sides ++ repetitions, k ∈ sides ++ ["repeat"] ∨ k = "no-repeat" := by
        decide
      rcases hsplit k hk with hword | rfl
      · exact hnone _ (.keyword hk)
          (prefix_of_left hx hseams (isChain_joins property (hletters k hword)) hpre)
      · -- the shorter keyword is left behind it
        obtain ⟨-, hleft⟩ := List.cons_prefix_cons.1 hpre
        have hinner : "repeat".toList <:+: ['o', '-', 'r', 'e', 'p', 'e', 'a', 't'] := by decide
        exact hbehind _ (.keyword (k := "repeat") (by decide)) (hinner.trans hleft.isInfix)
    | @measure digits unit hdigits hunit =>
      obtain ⟨d, ds, rfl, hd⟩ := hdigits.exists_cons
      obtain ⟨rfl, hleft⟩ := List.cons_prefix_cons.1 hpre
      cases ds with
      | nil => exact not_prefix_lone_measure hx hd hunit hleft
      | cons d' ds => exact hbehind _ (.measure hdigits.tail hunit) hleft.isInfix
    | image htext => exact not_prefix_image hproperty hx hseams htext hpre

end

/-! ## Normalizing again -/

/-- What is deleted from the values of a property, if anything. -/
def deleted? (property value : Bytes) : Option Regex :=
  if isBorder property && 1 < value.fields.length then some borderPart
  else if isBackground property then some backgroundPart
  else none

/-- The characters that normalizing a value brings together. -/
def seams (property value : Bytes) : List (Char × Char) :=
  match deleted? property value with
  | some r => r.seams value
  | none => []

/-- The value has a part that normalizing deletes. -/
def HasPart (property value : Bytes) : Prop :=
  ∃ v, v <:+: value.chars ∧
    (isBorder property = true ∧ 1 < value.fields.length ∧ IsBorderPart v ∨
      isBackground property = true ∧ IsBackgroundPart v)

section

variable {property value x : Bytes} {r : Regex}

theorem isBackground_of_isBorder (h : isBorder property = true) :
    isBackground property = false := by
  have hapart : ∀ p ∈ borderFamily, isBackground p = false := by decide
  exact hapart property (by simpa [isBorder] using h)

theorem normalize_of_deleted?_some (h : deleted? property value = some r) :
    normalize property value = (r.deleteAll value).trim := by
  unfold deleted? at h
  unfold normalize
  split at h
  · cases h
    rw [if_pos ‹_›]
  · rw [if_neg ‹_›]
    split at h
    · cases h
      rw [if_pos ‹_›]
    · cases h

theorem normalize_of_deleted?_none (h : deleted? property value = none) :
    normalize property value = value := by
  unfold deleted? at h
  unfold normalize
  split at h
  · cases h
  · split at h
    · cases h
    · rw [if_neg ‹_›, if_neg ‹_›]

theorem not_hasPart_of_deleted?_none (h : deleted? property x = none) : ¬ HasPart property x := by
  rintro ⟨v, -, ⟨hborder, hlen, -⟩ | ⟨hback, -⟩⟩
  · simp [deleted?, hborder, hlen] at h
  · simp only [deleted?, hback, if_true] at h
    split at h <;> cases h

/-- What is deleted has its parts, and none of them is left without a seam. -/
theorem exists_parts (h : deleted? property value = some r) :
    ∃ Part : List Char → Prop, r.Recognizes Part ∧
    (∀ x, HasPart property x ↔ deleted? property x ≠ none ∧ ∃ v, v <:+: x.chars ∧ Part v) ∧
    ∀ before rs, (∀ s ∈ r.seamsFrom 0 before rs, ¬ Joins property s.1 s.2) →
      ∀ v, Part v → ¬ v <:+: (r.deleteFrom 0 before rs).map Rune.char := by
  unfold deleted? at h
  split at h
  · next hborder =>
    cases h
    rw [Bool.and_eq_true] at hborder
    have hback := isBackground_of_isBorder hborder.1
    refine ⟨IsBorderPart, recognizes_borderPart, fun x => ?_, fun before rs => not_infix_border⟩
    by_cases hlen : 1 < x.fields.length <;> simp [HasPart, deleted?, hborder.1, hback, hlen]
  · split at h
    · next hback =>
      cases h
      have hborder : isBorder property = false := by
        by_contra hborder
        rw [isBackground_of_isBorder (Bool.not_eq_false _ ▸ hborder)] at hback
        cases hback
      refine ⟨IsBackgroundPart, recognizes_backgroundPart, fun x => ?_,
        fun before rs => not_infix_background hback⟩
      simp [HasPart, deleted?, hborder, hback]
    · cases h

theorem normalize_eq_self_iff (hx : deleted? property x ≠ none → x.trim = x) :
    normalize property x = x ↔ ¬ HasPart property x := by
  cases hr : deleted? property x with
  | none => simp [normalize_of_deleted?_none hr, not_hasPart_of_deleted?_none hr]
  | some r =>
    obtain ⟨Part, hrec, hparts, -⟩ := exists_parts hr
    have hne : deleted? property x ≠ none := by simp [hr]
    rw [normalize_of_deleted?_some hr, hrec.trim_deleteAll_eq_self_iff (hx hne), hparts]
    constructor
    · rintro h ⟨-, v, hv, hpart⟩
      exact h v hpart hv
    · exact fun h v hpart hv => h ⟨hne, v, hv, hpart⟩

theorem trim_normalize (h : deleted? property (normalize property value) ≠ none) :
    (normalize property value).trim = normalize property value := by
  cases hr : deleted? property value with
  | none =>
    rw [normalize_of_deleted?_none hr] at h
    exact absurd hr h
  | some r => rw [normalize_of_deleted?_some hr, Bytes.trim_trim]

theorem not_hasPart_normalize (hvalue : value.isWellFormed = true)
    (hseams : ∀ s ∈ seams property value, ¬ Joins property s.1 s.2) :
    ¬ HasPart property (normalize property value) := by
  cases hr : deleted? property value with
  | none =>
    rw [normalize_of_deleted?_none hr]
    exact not_hasPart_of_deleted?_none hr
  | some r =>
    obtain ⟨Part, -, hparts, hleft⟩ := exists_parts hr
    rw [hparts, normalize_of_deleted?_some hr]
    rintro ⟨-, v, hv, hpart⟩
    have hinfix := hv.trans (Bytes.chars_trim_infix _)
    rw [chars_deleteAll r hvalue] at hinfix
    refine hleft none value.runes ?_ v hpart hinfix
    rwa [seams, hr] at hseams

/-- **Normalizing again changes nothing** if and only if no part is left that it deletes. None is
left of a well-formed value in which no seam joins two letters, or, in a background, a letter and a
parenthesis. -/
theorem normalize_again (property value : Bytes) :
    (normalize property (normalize property value) = normalize property value ↔
      ¬ HasPart property (normalize property value)) ∧
    (value.isWellFormed = true → (∀ s ∈ seams property value, ¬ Joins property s.1 s.2) →
      normalize property (normalize property value) = normalize property value) := by
  have hiff : normalize property (normalize property value) = normalize property value ↔
      ¬ HasPart property (normalize property value) := normalize_eq_self_iff trim_normalize
  exact ⟨hiff, fun hvalue hseams => hiff.2 (not_hasPart_normalize hvalue hseams)⟩

/-- The numbers of a color are deleted and leave seams, but none in a keyword. -/
theorem normalize_again_color :
    Bytes.isWellFormed "1px solid rgb(10, 20, 30)" = true ∧
      seams "border" "1px solid rgb(10, 20, 30)" =
        [(' ', ' '), ('(', ','), (' ', ','), (' ', ')')] ∧
      normalize "border" "1px solid rgb(10, 20, 30)" = "rgb(, , )" ∧
      normalize "border" (normalize "border" "1px solid rgb(10, 20, 30)") =
        normalize "border" "1px solid rgb(10, 20, 30)" := by
  have hvalue : Bytes.isWellFormed "1px solid rgb(10, 20, 30)" = true := by decide
  have hseams : seams "border" "1px solid rgb(10, 20, 30)" =
      [(' ', ' '), ('(', ','), (' ', ','), (' ', ')')] := by
    decide
  refine ⟨hvalue, hseams, by decide, (normalize_again _ _).2 hvalue ?_⟩
  rw [hseams]
  exact forall_mem_of_all (by decide)

/-- A line style inside another one uncovers it when it is deleted. -/
theorem normalize_uncovers_style :
    normalize "border" "sosolidlid red" = "solid red" ∧
      seams "border" "sosolidlid red" = [('o', 'l')] ∧
      normalize "border" (normalize "border" "sosolidlid red") = "red" ∧
      normalize "border" (normalize "border" "sosolidlid red") ≠
        normalize "border" "sosolidlid red" := by
  decide

end

end VarLint.Value
