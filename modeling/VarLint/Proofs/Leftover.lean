import VarLint.Proofs.Fields
import VarLint.Proofs.PreferredMatch

/-!
# What deleting matches leaves of a text

Where an expression keeps blanks, deleting its matches goes through a text blank by blank and field
by field: `leftover_blank`, `leftover_field` for a field that a match takes, `leftover_kept` for one
that no match touches.
-/

namespace VarLint

/-! ## Characters -/

/-- Checks the members of a list one by one; deciding the statement itself may go through all
characters there are. -/
theorem forall_mem_of_all {α : Type} {P : α → Prop} [DecidablePred P] {cs : List α}
    (h : cs.all (fun c => decide (P c)) = true) : ∀ c ∈ cs, P c :=
  fun c hc => of_decide_eq_true (List.all_eq_true.1 h c hc)

theorem forall_mem_words {P : Char → Prop} [DecidablePred P] {ks : List String}
    (h : ks.all (fun k => k.toList.all fun c => decide (P c)) = true) :
    ∀ k ∈ ks, ∀ c ∈ k.toList, P c :=
  fun k hk => forall_mem_of_all (List.all_eq_true.1 h k hk)

section

variable {c : Char}

theorem isWordChar_eq (c : Char) : isWordChar c = (c.isAlphanum || c == '_') := by
  rw [Bool.eq_iff_iff]
  delta Char.isAlphanum Char.isAlpha Char.isUpper Char.isLower
  simp only [isWordChar, Char.isDigit, Bool.or_eq_true, Bool.and_eq_true, decide_eq_true_eq,
    Char.le_def, ge_iff_le]
  tauto

theorem isWordChar_of_isDigit (h : c.isDigit = true) : isWordChar c = true := by
  simp [isWordChar_eq, Char.isAlphanum, h]

theorem isWordChar_of_isAlpha (h : c.isAlpha = true) : isWordChar c = true := by
  simp [isWordChar_eq, Char.isAlphanum, h]

theorem isDigit_of_isAlpha (h : c.isAlpha = true) : c.isDigit = false := by
  have hle : 'A'.val.toNat = 65 ∧ 'Z'.val.toNat = 90 ∧ 'a'.val.toNat = 97 ∧ 'z'.val.toNat = 122 ∧
      '9'.val.toNat = 57 := ⟨rfl, rfl, rfl, rfl, rfl⟩
  delta Char.isAlpha Char.isUpper Char.isLower at h
  simp only [Bool.or_eq_true, Bool.and_eq_true, decide_eq_true_eq, ge_iff_le,
    UInt32.le_iff_toNat_le] at h
  rw [Char.isDigit, Bool.and_eq_false_iff]
  right
  rw [decide_eq_false_iff_not, UInt32.le_iff_toNat_le]
  omega

theorem isWordChar_of_isBlank (h : isBlank c = true) : isWordChar c = false := by
  by_contra hw
  have hu : '_'.toNat = 0x5F := rfl
  have hrange : ∀ a z : Char, (a.val.toNat ≤ c.val.toNat ∧ c.val.toNat ≤ z.val.toNat) ↔
      (a.toNat ≤ c.toNat ∧ c.toNat ≤ z.toNat) := fun a z => Iff.rfl
  have h09 : '0'.toNat = 0x30 ∧ '9'.toNat = 0x39 := ⟨rfl, rfl⟩
  have hAZ : 'A'.toNat = 0x41 ∧ 'Z'.toNat = 0x5A := ⟨rfl, rfl⟩
  have haz : 'a'.toNat = 0x61 ∧ 'z'.toNat = 0x7A := ⟨rfl, rfl⟩
  rw [Bool.not_eq_false] at hw
  simp only [isWordChar, Bool.or_eq_true, Bool.and_eq_true, decide_eq_true_eq, beq_iff_eq,
    Char.le_def, UInt32.le_iff_toNat_le, ← Char.toNat_inj] at hw
  rw [hrange, hrange, hrange, hu, h09.1, h09.2, hAZ.1, hAZ.2, haz.1, haz.2] at hw
  simp only [isBlank, Bool.or_eq_true, Bool.and_eq_true, decide_eq_true_eq, beq_iff_eq] at h
  omega

theorem isDigit_of_not_word (h : isWordChar c = false) : c.isDigit = false := by
  by_contra hd
  rw [Bool.not_eq_false] at hd
  rw [isWordChar_of_isDigit hd] at h
  cases h

end

namespace Regex

/-! ## Blanks and fields -/

variable {r : Regex} {f s t : Bytes}

/-- What is left of a text. -/
def leftover (r : Regex) (before : Option Char) (s : Bytes) : Bytes :=
  Bytes.ofRunes (r.deleteFrom 0 before s.runes)

/-- No match takes anything at a blank. -/
def KeepsBlanks (r : Regex) : Prop :=
  ∀ (c : Char) (s : Bytes), isBlank c = true → r.Takes 0 (Rune.ofChar c :: s.runes)

theorem leftover_blank (hr : r.KeepsBlanks) {c : Char} (hc : isBlank c = true)
    (before : Option Char) :
    r.leftover before (String.utf8EncodeChar c ++ s) =
      String.utf8EncodeChar c ++ r.leftover (some c) s := by
  have htakes := hr c s hc before
  rw [leftover, Bytes.runes_encode_append, deleteFrom, htakes]
  rfl

theorem startsBlank_leftover (hr : r.KeepsBlanks) (hs : Bytes.StartsBlank s)
    (before : Option Char) :
    Bytes.StartsBlank (r.leftover before s) := by
  rcases hs with rfl | ⟨c, t, hc, rfl⟩
  · exact Bytes.startsBlank_nil
  · rw [leftover_blank hr hc]
    exact Bytes.startsBlank_encode hc _

theorem leftover_taken {w : List Rune} (hs : s.runes = w ++ t.runes) (hw : w ≠ [])
    (htakes : r.Takes w.length (w ++ t.runes)) (before : Option Char) :
    r.leftover before s = r.leftover (lastChar before w) t := by
  rw [leftover, hs, deleteFrom_taken hw htakes]
  rfl

theorem leftover_field (hf : Bytes.IsField f) (hs : Bytes.StartsBlank s)
    (htakes : r.Takes f.runes.length (f.runes ++ s.runes)) (before : Option Char) :
    r.leftover before (f ++ s) = r.leftover (lastChar before f.runes) s :=
  leftover_taken (Bytes.runes_append_startsBlank f hs) hf.runes_ne_nil htakes before

theorem leftover_kept (hs : Bytes.StartsBlank s)
    (htakes : ∀ u x v, f.runes = u ++ x :: v → r.Takes 0 (x :: v ++ s.runes))
    (before : Option Char) :
    r.leftover before (f ++ s) = f ++ r.leftover (lastChar before f.runes) s := by
  rw [leftover, Bytes.runes_append_startsBlank f hs, deleteFrom_kept htakes, Bytes.ofRunes_append,
    Bytes.ofRunes_runes]
  rfl

theorem notWord_of_startsBlank (hs : Bytes.StartsBlank s) :
    ∀ r ∈ s.runes.head?, isWordChar r.char = false := by
  rcases hs with rfl | ⟨c, t, hc, rfl⟩
  · simp
  · rw [Bytes.runes_encode_append]
    simpa [Rune.ofChar] using isWordChar_of_isBlank hc

theorem isBlank_of_startsBlank (hs : Bytes.StartsBlank s) :
    ∀ r ∈ s.runes.head?, isBlank r.char = true := by
  rcases hs with rfl | ⟨c, t, hc, rfl⟩
  · simp
  · rw [Bytes.runes_encode_append]
    simpa [Rune.ofChar] using hc

end Regex

end VarLint
