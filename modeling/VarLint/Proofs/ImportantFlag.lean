import Mathlib.Data.List.DropRight
import VarLint.Proofs.Leftover
import VarLint.Proofs.MatchedTexts
import VarLint.Stylesheet.Declaration

/-!
# The flag at the end of a value

A text is trimmed, searched for a flag that ends it, cut before the flag, and trimmed again. The two
trims take all blanks of Unicode, the search only some of ASCII.

* `contains_single_fold`: a letter of the flag is matched by itself and by its capital, and by
  nothing outside of ASCII.
* `accepts_importantFlag`: a match starts where blanks, a flag and blanks are all that follows.
* `beforeFirst?_flagged`: what stands before the match is what stands before the flag, but for some
  blanks. There is only one way to read a flag at the end of a text, so flags and exclamation marks
  further to the left have no say.
* `valueOf_flag_transparent`: **a flag behind a value leaves the value as it is.**
-/

namespace VarLint

/-! ## Letter case -/

namespace Case

/-- Whether a code point is a small letter of ASCII whose only case variants are itself and its
capital. The two others, `k` and `s`, have one outside of ASCII. -/
def isPlainLetter (n : Nat) : Bool := 0x61 ≤ n && n ≤ 0x7A && n != 0x6B && n != 0x73

theorem isPlainLetter_iff {n : Nat} :
    isPlainLetter n = true ↔ (0x61 ≤ n ∧ n ≤ 0x7A) ∧ n ≠ 0x6B ∧ n ≠ 0x73 := by
  simp [isPlainLetter, and_assoc]

/-- What the table of variants says about ASCII: its small letters are representatives, and only the
capitals, one variant of `k` and one of `s` are moved to them. -/
theorem foldShifts_ascii {s : Shift} (hs : s ∈ foldShifts) :
    (s.span.last < 0x61 ∨ 0x7A < s.span.first) ∧
      (s.span.last < 0x80 ∨ 0x80 ≤ s.target ∨
        s.span.first = s.span.last ∧ (s.target = 0x6B ∨ s.target = 0x73)) := by
  have hall : foldShifts.all (fun s => decide ((s.span.last < 0x61 ∨ 0x7A < s.span.first) ∧
      (s.span.last < 0x80 ∨ 0x80 ≤ s.target ∨
        s.span.first = s.span.last ∧ (s.target = 0x6B ∨ s.target = 0x73)))) = true := by
          decide +kernel
  exact of_decide_eq_true (List.all_eq_true.1 hall s hs)

theorem fold_eq_iff {n : Nat} (hn : isPlainLetter n = true) (d : Nat) :
    fold d = n ↔ d = n ∨ d + 0x20 = n := by
  rw [isPlainLetter_iff] at hn
  unfold fold
  split
  · split <;> omega
  · next hd =>
    have hshift : shift foldShifts d ≠ n := by
      unfold shift
      split
      · next s hs =>
        have hspan := List.find?_some hs
        simp only [Span.contains, Bool.and_eq_true, decide_eq_true_eq] at hspan
        have hascii := foldShifts_ascii (List.mem_of_find?_eq_some hs)
        omega
      · omega
    constructor
    · exact fun h => absurd h hshift
    · omega

theorem mem_variants_iff {n : Nat} (hn : isPlainLetter n = true) (d : Nat) :
    n ∈ variants d ↔ d = n ∨ d + 0x20 = n := by
  rw [← fold_eq_iff hn, variants, List.mem_cons, eq_comm, or_iff_left]
  intro hmem
  obtain ⟨s, hs, hsource⟩ := List.mem_filterMap.1 hmem
  dsimp only at hsource
  split at hsource
  · next hif =>
    obtain rfl := Option.some.inj hsource
    simp only [Span.contains, Bool.and_eq_true, decide_eq_true_eq] at hif
    have hletter := isPlainLetter_iff.1 hn
    have hspan := (foldShifts_ascii hs).1
    omega
  · cases hsource

end Case

theorem toLower_eq_iff {c : Char} (hc : Case.isPlainLetter c.toNat = true) (d : Char) :
    d.toLower = c ↔ d.toNat = c.toNat ∨ d.toNat + 0x20 = c.toNat := by
  have hcodes : 'A'.val.toNat = 0x41 ∧ 'Z'.val.toNat = 0x5A ∧ ('a'.val - 'A'.val).toNat = 0x20 :=
    ⟨rfl, rfl, rfl⟩
  have hd : d.val.toNat = d.toNat := rfl
  rw [Case.isPlainLetter_iff] at hc
  delta Char.toLower
  simp only [ge_iff_le, UInt32.le_iff_toNat_le]
  split
  · next h =>
    rw [← Char.toNat_inj]
    have hadd : (d.val + ('a'.val - 'A'.val)).toNat = d.toNat + 0x20 := by
      rw [UInt32.toNat_add, hcodes.2.2, hd]
      omega
    show (d.val + ('a'.val - 'A'.val)).toNat = c.toNat ↔ _
    rw [hadd]
    omega
  · next h =>
    rw [← Char.toNat_inj]
    omega

theorem CharClass.contains_single_fold {c : Char} (hc : Case.isPlainLetter c.toNat = true)
    (d : Char) : (single true c.toNat).contains d = true ↔ d.toLower = c := by
  have hmem : (single true c.toNat).contains d = true ↔ c.toNat ∈ Case.variants d.toNat := by
    have hspan : ∀ n, (⟨c.toNat, c.toNat, 1⟩ : Span).contains n = true ↔ n = c.toNat := by
      intro n
      simp only [Span.contains, Nat.mod_one, Bool.and_eq_true, decide_eq_true_eq,
        beq_iff_eq, and_true]
      omega
    simp [single, contains, ClassItem.contains, ClassItem.interval, Span.anyContains, hspan]
  rw [hmem, Case.mem_variants_iff hc, toLower_eq_iff hc]

namespace Regex

/-- Letters in any case, one after another. -/
theorem spans_caseless : ∀ k : List Char, (∀ c ∈ k, Case.isPlainLetter c.toNat = true) →
    (sequence (k.map fun c => .char (.single true c.toNat))).Spans fun v => v.map Char.toLower = k
  | [], _ => by
    intro p q
    simp [sequence, ends]
  | [c], hk => by
    refine (spans_char _).congr fun v => ?_
    simp only [CharClass.contains_single_fold (hk c (by simp)), List.map_eq_singleton_iff]
  | c :: d :: k, hk => by
    have hrest := spans_caseless (d :: k) fun e he => hk e (List.mem_cons_of_mem _ he)
    refine ((spans_char _).seq hrest).congr fun v => ?_
    simp only [CharClass.contains_single_fold (hk c (by simp))]
    constructor
    · rintro ⟨_, t, rfl, ⟨e, rfl, rfl⟩, ht⟩
      rw [List.singleton_append, List.map_cons, ht]
    · intro hv
      obtain ⟨e, t, rfl, he, ht⟩ := List.map_eq_cons_iff.1 hv
      exact ⟨[e], t, rfl, ⟨e, rfl, he⟩, ht⟩

end Regex

namespace Stylesheet

/-! ## Flags -/

/-- The blanks that may stand inside of a flag: white space of ASCII, the vertical tab excepted. -/
def flagBlanks : List Char := ['\t', '\n', '\x0c', '\r', ' ']

/-- A flag as it is written: an exclamation mark, perhaps blanks, and `important` in capital or
small letters. -/
def IsFlag (f : List Char) : Prop :=
  ∃ gap word, f = '!' :: (gap ++ word) ∧ (∀ c ∈ gap, c ∈ flagBlanks) ∧
    word.map Char.toLower = "important".toList

/-- The text ends in a flag. -/
def EndsInFlag (s : Bytes) : Prop := ∃ f, IsFlag f ∧ Bytes.ofChars f <:+ s

theorem contains_space (c : Char) :
    (CharClass.ofItem CharClass.spaceItem).contains c = true ↔ c ∈ flagBlanks := by
  rw [CharClass.spaceItem, CharClass.contains_ofItem]
  simp only [Span.anyContains, Span.contains, Nat.mod_one, List.any_cons, List.any_nil,
    Bool.or_false, Bool.or_eq_true, Bool.and_eq_true, decide_eq_true_eq, beq_iff_eq, and_true,
    flagBlanks, List.mem_cons,
    List.not_mem_nil, or_false, ← Char.toNat_inj]
  have hcodes : '\t'.toNat = 0x09 ∧ '\n'.toNat = 0x0A ∧ '\x0c'.toNat = 0x0C ∧ '\r'.toNat = 0x0D ∧
      ' '.toNat = 0x20 := ⟨rfl, rfl, rfl, rfl, rfl⟩
  omega

theorem isBlank_of_mem_flagBlanks {c : Char} (h : c ∈ flagBlanks) : isBlank c = true := by
  have hall : ∀ d ∈ flagBlanks, isBlank d = true := forall_mem_of_all (by decide)
  exact hall c h

/-- What a match takes: a flag with blanks around it, up to the end of the text. -/
def IsFlagTail (v : List Char) : Prop :=
  ∃ lead f trail, v = lead ++ (f ++ trail) ∧ (∀ c ∈ lead, c ∈ flagBlanks) ∧ IsFlag f ∧
    ∀ c ∈ trail, c ∈ flagBlanks

theorem accepts_importantFlag : importantFlag.Accepts IsFlagTail := by
  have hspace : Regex.space.star.Spans fun v => ∀ c ∈ v, c ∈ flagBlanks :=
    (Regex.spans_star_char _).congr fun v => by simp only [contains_space]
  have hword := Regex.spans_caseless "important".toList (forall_mem_of_all (by decide))
  refine (hspace.accepts ((Regex.spans_literal "!").accepts (hspace.accepts (hword.accepts
    (hspace.accepts Regex.accepts_textEnd))))).congr fun v => ?_
  constructor
  · rintro ⟨lead, _, rfl, hlead, mark, _, rfl, rfl, gap, _, rfl, hgap, word, _, rfl, hword, trail,
      _, rfl, htrail, rfl⟩
    exact ⟨lead, '!' :: (gap ++ word), trail, by simp, hlead, ⟨gap, word, rfl, hgap, hword⟩, htrail⟩
  · rintro ⟨lead, _, trail, rfl, hlead, ⟨gap, word, rfl, hgap, hword⟩, htrail⟩
    exact ⟨lead, _, rfl, hlead, ['!'], gap ++ (word ++ trail), by simp, rfl, gap, _, rfl, hgap,
      word, _, rfl, hword, trail, [], by simp, htrail, rfl⟩

section

variable {f f' lead trail x : List Char}

theorem IsFlag.not_mem_replacement (hf : IsFlag f) : Rune.replacement ∉ f := by
  obtain ⟨gap, word, rfl, hgap, hword⟩ := hf
  intro hmem
  rcases List.mem_cons.1 hmem with hmark | hmem
  · exact absurd hmark (by decide)
  · rcases List.mem_append.1 hmem with hmem | hmem
    · exact absurd (hgap _ hmem) (by decide)
    · have hlower : Rune.replacement.toLower ∈ "important".toList :=
        hword ▸ List.mem_map_of_mem hmem
      exact absurd hlower (by decide)

theorem isBlank_of_toLower {c : Char} (h : c.toLower ∈ "important".toList) : isBlank c = false := by
  have hletter : Case.isPlainLetter c.toLower.toNat = true := by
    have hall : ∀ d ∈ "important".toList, Case.isPlainLetter d.toNat = true :=
      forall_mem_of_all (by decide)
    exact hall _ h
  have hcode := (toLower_eq_iff hletter c).1 rfl
  rw [Case.isPlainLetter_iff] at hletter
  rw [← Bool.not_eq_true]
  simp only [isBlank, Bool.or_eq_true, Bool.and_eq_true, decide_eq_true_eq, beq_iff_eq]
  omega

theorem IsFlag.ne_nil (hf : IsFlag f) : f ≠ [] := by
  obtain ⟨gap, word, rfl, -, -⟩ := hf
  simp

theorem IsFlag.isBlank_head (hf : IsFlag f) : ∀ c ∈ f.head?, isBlank c = false := by
  obtain ⟨gap, word, rfl, -, -⟩ := hf
  intro c hc
  obtain rfl : '!' = c := Option.some.inj hc
  decide

theorem IsFlag.isBlank_last (hf : IsFlag f) : ∀ c ∈ f.getLast?, isBlank c = false := by
  obtain ⟨gap, word, rfl, -, hword⟩ := hf
  intro c hc
  have hne : word ≠ [] := by
    rintro rfl
    cases hword
  rw [← List.cons_append, List.getLast?_append_of_ne_nil _ hne] at hc
  exact isBlank_of_toLower (hword ▸ List.mem_map_of_mem (List.mem_of_getLast? hc))

/-- **A flag at the end of a text is read in one way.** -/
theorem IsFlag.append_inj (hf : IsFlag f) (hf' : IsFlag f') (hlead : ∀ c ∈ lead, c ∈ flagBlanks)
    (h : lead ++ f = x ++ f') : lead = x := by
  obtain ⟨gap, word, rfl, hgap, hword⟩ := hf
  obtain ⟨gap', word', rfl, -, hword'⟩ := hf'
  have hlen : word.length = word'.length := by
    simpa using congrArg List.length (hword.trans hword'.symm)
  have hmark : ∀ {cs : List Char}, (∀ c ∈ cs, c ∈ flagBlanks) → '!' ∉ cs :=
    fun hcs hmem => absurd (hcs _ hmem) (by decide)
  -- the words are equally long, and no mark stands on either side of the first one
  rw [← List.cons_append, ← List.cons_append, ← List.append_assoc, ← List.append_assoc] at h
  obtain ⟨hfront, -⟩ := List.append_inj' h hlen
  exact ((List.append_cons_inj_of_notMem (hmark hlead) (hmark hgap)).1 hfront).1

theorem eq_nil_of_flagBlanks (hlast : ∀ c ∈ (x ++ trail).getLast?, isBlank c = false)
    (htrail : ∀ c ∈ trail, c ∈ flagBlanks) : trail = [] := by
  rcases List.eq_nil_or_concat trail with rfl | ⟨t, c, rfl⟩
  · rfl
  · have hblank := isBlank_of_mem_flagBlanks (htrail c (by simp))
    rw [hlast c (by simp)] at hblank
    cases hblank

/-- **A match that ends in a flag starts behind every other character**: it takes no second flag and
no blank that is none of its own. -/
theorem IsFlag.not_isFlagTail (hf : IsFlag f) {c : Char} (hc : c ∉ flagBlanks) (u gap : List Char) :
    ¬ IsFlagTail (u ++ c :: (gap ++ f)) := by
  rintro ⟨lead, f', trail, heq, hlead, hf', htrail⟩
  rw [← List.cons_append, ← List.append_assoc, ← List.append_assoc] at heq
  obtain rfl : trail = [] := by
    refine eq_nil_of_flagBlanks (x := lead ++ f') ?_ htrail
    rw [← heq, List.getLast?_append_of_ne_nil _ hf.ne_nil]
    exact hf.isBlank_last
  rw [List.append_nil] at heq
  have hsame := hf'.append_inj hf hlead heq.symm
  exact hc (hlead c (by simp [hsame]))

end

/-! ## Texts with a flag -/

/-- A text without the blanks at its end that a match takes. -/
theorem exists_kept (x : Bytes) : ∃ kept gap, x.runes = kept ++ gap ∧
    (∀ r ∈ gap, r.char ∈ flagBlanks) ∧
    ∀ r ∈ kept.getLast?, r.char ∉ flagBlanks := by
  refine ⟨x.runes.rdropWhile fun r => decide (r.char ∈ flagBlanks),
    x.runes.rtakeWhile fun r => decide (r.char ∈ flagBlanks),
    List.rdropWhile_append_rtakeWhile.symm, ?_, ?_⟩
  · intro r hr
    exact of_decide_eq_true
      (List.mem_rtakeWhile_imp (p := fun r : Rune => decide (r.char ∈ flagBlanks)) hr)
  · intro r hr
    obtain ⟨hne, rfl⟩ := List.mem_getLast?_eq_getLast hr
    simpa using List.rdropWhile_last_not _ _ hne

section

variable {f : List Char}

/-- **What stands before the match** is what stands before the flag, but for some blanks at its
end. -/
theorem beforeFirst?_flagged (hf : IsFlag f) (x : Bytes) :
    ∃ y gap, importantFlag.beforeFirst? (x ++ Bytes.ofChars f) = some y ∧
      x = y ++ Bytes.ofChars gap ∧
      ∀ c ∈ gap, isBlank c = true := by
  obtain ⟨kept, gap, hx, hgap, hkept⟩ := exists_kept x
  have hwritten := Rune.map_char_map_ofChar f
  have hmatch : IsFlagTail ((gap ++ f.map Rune.ofChar).map Rune.char) := by
    refine ⟨gap.map Rune.char, f, [], ?_, by simpa using hgap, hf, by simp⟩
    rw [List.map_append, hwritten, List.append_nil]
  have hfirst : ∀ front back, kept = front ++ back → back ≠ [] →
      ¬ IsFlagTail ((back ++ (gap ++ f.map Rune.ofChar)).map Rune.char) := by
    rintro front back rfl hne
    obtain ⟨more, r, rfl⟩ := (List.eq_nil_or_concat back).resolve_left hne
    have hr : r.char ∉ flagBlanks := hkept r (by simp)
    have hnot := hf.not_isFlagTail hr (more.map Rune.char) (gap.map Rune.char)
    rwa [List.map_append, List.map_append, hwritten, List.concat_eq_append, List.map_append,
      List.append_assoc]
  refine ⟨Bytes.ofRunes kept, gap.map Rune.char, ?_, ?_, ?_⟩
  · rw [Regex.beforeFirst?, Bytes.runes_append_ofChars, hx, List.append_assoc,
      accepts_importantFlag.go_eq_some hmatch hfirst]
    rfl
  · have hblanks : ∀ r ∈ gap, r = Rune.ofChar r.char := by
      intro r hr
      exact Bytes.eq_ofChar_of_blank (s := x) (by simp [hx, hr])
        (isBlank_of_mem_flagBlanks (hgap r hr))
    rw [← Bytes.ofRunes_eq_ofChars hblanks, ← Bytes.ofRunes_append, ← hx, Bytes.ofRunes_runes]
  · intro c hc
    obtain ⟨r, hr, rfl⟩ := List.mem_map.1 hc
    exact isBlank_of_mem_flagBlanks (hgap r hr)

/-- The value of a text that ends in a flag once it is trimmed. -/
theorem valueOf_of_trim_eq (hf : IsFlag f) {text x : Bytes} (h : text.trim = x ++ Bytes.ofChars f) :
    valueOf text = (x.trim, true) := by
  obtain ⟨y, gap, hfirst, rfl, hgap⟩ := beforeFirst?_flagged hf x
  rw [valueOf, h, hfirst, Bytes.trim_append_ofChars hgap]

/-- The value of a text that does not. -/
theorem valueOf_of_not_endsInFlag {text : Bytes} (h : ¬ EndsInFlag text.trim) :
    valueOf text = (text.trim, false) := by
  have hnone : ∀ v, v <:+ text.trim.runes → ¬ IsFlagTail (v.map Rune.char) := by
    rintro v ⟨front, hfront⟩ ⟨lead, f, trail, hv, -, hf, htrail⟩
    have hchars : text.trim.chars = (front.map Rune.char ++ lead ++ f) ++ trail := by
      rw [Bytes.chars, ← hfront, List.map_append, hv]
      simp
    obtain rfl : trail = [] := eq_nil_of_flagBlanks
      (hchars ▸ (Bytes.isTrimmed_trim text).last) htrail
    rw [List.append_nil] at hchars
    exact h ⟨f, hf, (Bytes.ofChars_suffix_iff hf.not_mem_replacement).2 ⟨_, hchars.symm⟩⟩
  rw [valueOf, Regex.beforeFirst?, accepts_importantFlag.go_eq_none hnone]
  rfl

theorem important_iff (text : Bytes) : (valueOf text).2 = true ↔ EndsInFlag text.trim := by
  constructor
  · intro h
    by_contra hnot
    rw [valueOf_of_not_endsInFlag hnot] at h
    cases h
  · rintro ⟨f, hf, x, hx⟩
    rw [valueOf_of_trim_eq hf hx.symm]

theorem isTrimmed_valueOf (text : Bytes) : (valueOf text).1.IsTrimmed := by
  rw [valueOf]
  split
  · exact Bytes.isTrimmed_trim _
  · exact Bytes.isTrimmed_trim _

theorem IsFlag.isTrimmed_append (hf : IsFlag f) {x : Bytes}
    (hx : ∀ c ∈ x.chars.head?, isBlank c = false) : (x ++ Bytes.ofChars f).IsTrimmed := by
  constructor
  · rw [Bytes.chars_append_ofChars]
    cases hchars : x.chars with
    | nil => exact hf.isBlank_head
    | cons c cs => simpa [hchars] using hx
  · rw [Bytes.chars_append_ofChars, List.getLast?_append_of_ne_nil _ hf.ne_nil]
    exact hf.isBlank_last

/-- A text with blanks, a flag and blanks behind it, trimmed. Where there is nothing but blanks
before the flag, they go with the rest. -/
theorem exists_trim_flagged (hf : IsFlag f) (w : Bytes) {s u : Bytes}
    (hs : ∀ c ∈ s.chars, isBlank c = true) (hu : ∀ c ∈ u.chars, isBlank c = true) :
    ∃ gap, (∀ c ∈ gap, isBlank c = true) ∧
      (w ++ s ++ Bytes.ofChars f ++ u).trim = w.trim ++ Bytes.ofChars gap ++ Bytes.ofChars f := by
  obtain ⟨front, back, hw, hfront, hback⟩ := Bytes.exists_trim w
  obtain ⟨v, hv⟩ : ∃ v, v = w.trim := ⟨_, rfl⟩
  have hgap : ∀ c ∈ back ++ s.chars, isBlank c = true :=
    fun c hc => (List.mem_append.1 hc).elim (hback c) (hs c)
  have htrim : (w ++ s ++ Bytes.ofChars f ++ u).trim =
      (v ++ Bytes.ofChars (back ++ s.chars) ++ Bytes.ofChars f).trim := by
    rw [← Bytes.ofChars_chars_of_blank hu, Bytes.trim_append_ofChars hu, hw, ← hv,
      Bytes.ofChars_append, Bytes.ofChars_chars_of_blank hs]
    simp only [List.append_assoc]
    rw [Bytes.trim_ofChars_append hfront]
  rw [htrim, ← hv]
  cases hchars : v.chars with
  | nil =>
    obtain rfl : v = [] := Bytes.eq_nil_of_chars hchars
    refine ⟨[], by simp, ?_⟩
    rw [List.nil_append, Bytes.trim_ofChars_append hgap]
    exact Bytes.trim_of_isTrimmed (hf.isTrimmed_append (x := []) (by simp [Bytes.chars]))
  | cons c cs =>
    refine ⟨back ++ s.chars, hgap, Bytes.trim_of_isTrimmed (hf.isTrimmed_append ?_)⟩
    have hhead := (Bytes.isTrimmed_trim w).head
    rw [← hv, hchars] at hhead
    rw [Bytes.chars_append_ofChars, hchars]
    exact hhead

/-- **A flag behind a value leaves the value as it is.** If a text does not end in a flag once it is
trimmed, its value is the trimmed text, without the flag. With blanks of any kind, a flag and again
blanks behind it the value is the same, with the flag. No value has a blank at its start or at its
end, whether it is read off a text or recorded in a declaration. -/
theorem valueOf_flag_transparent :
    (∀ (w s u : Bytes) (f : List Char), ¬ EndsInFlag w.trim → IsFlag f →
      (∀ c ∈ s.chars, isBlank c = true) → (∀ c ∈ u.chars, isBlank c = true) →
      valueOf w = (w.trim, false) ∧ valueOf (w ++ s ++ Bytes.ofChars f ++ u) = (w.trim, true)) ∧
    (∀ text : Bytes, (valueOf text).1.IsTrimmed) ∧
    ∀ filename content : Bytes, ∀ d ∈ declarations filename content, d.value.IsTrimmed := by
  refine ⟨fun w s u f hw hf hs hu => ⟨valueOf_of_not_endsInFlag hw, ?_⟩, isTrimmed_valueOf, ?_⟩
  · obtain ⟨gap, hgap, htrim⟩ := exists_trim_flagged hf w hs hu
    rw [valueOf_of_trim_eq hf htrim, Bytes.trim_append_ofChars hgap, Bytes.trim_trim]
  · intro filename content d hd
    obtain ⟨body, -, rfl⟩ := List.mem_map.1 hd
    exact isTrimmed_valueOf body.2

end

/-- A value that holds a flag and ends in what would be one but for a blank of Unicode. -/
def almostFlagged : Bytes := "\u2003a!important b !\u00a0IMPORTANT\x0b"

/-- The flag behind it is found, across a vertical tab and other blanks of Unicode. -/
theorem valueOf_flag_transparent_almostFlagged :
    almostFlagged.trim = "a!important b !\u00a0IMPORTANT" ∧
      valueOf almostFlagged = (almostFlagged.trim, false) ∧
      valueOf (almostFlagged ++ ("\u2009\x0b" : Bytes) ++ Bytes.ofChars "!\t\nImPortanT".toList ++
        ("\u0085 " : Bytes)) = (almostFlagged.trim, true) := by
  have hnot : ¬ EndsInFlag almostFlagged.trim := by
    rw [← important_iff]
    decide +kernel
  have hflag : IsFlag "!\t\nImPortanT".toList :=
    ⟨['\t', '\n'], "ImPortanT".toList, rfl, forall_mem_of_all (by decide), rfl⟩
  refine ⟨by decide +kernel,
    valueOf_flag_transparent.1 almostFlagged "\u2009\x0b" "\u0085 " _ hnot hflag ?_ ?_⟩
  · exact forall_mem_of_all (by decide)
  · exact forall_mem_of_all (by decide)

end Stylesheet

end VarLint
