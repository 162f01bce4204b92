import Mathlib.Data.List.Forall2
import Mathlib.Data.List.Induction
import VarLint.Stylesheet.Declaration

/-!
# Lines, places, and what blanking comments keeps of them

* `splitOn_append`: the lines of two texts in a row are those of the first and of the second, with
  the last line of the first and the first line of the second joined to one.
* `advance_start`: the place behind a text is the end of its last line, so `textFrom_advance` reads
  on from there, and `line_at_advance` finds there the line that the place is in.
* `Position.Before`: the order of places. Every byte leads to a later one (`before_advance`).
* `maskFrom_kept`: blanking line comments replaces bytes by spaces, but no line feeds and carriage
  returns. So the lines stay in place and keep their lengths (`splitOn_kept`,
  `withoutReturn_length_kept`).
-/

namespace VarLint

/-! ## Lines -/

namespace Bytes

theorem splitOn_cons_self (sep : UInt8) (s : Bytes) :
    splitOn sep (sep :: s) = [] :: splitOn sep s := by
  simp [splitOn]

theorem exists_splitOn_cons (sep : UInt8) (s : Bytes) :
    ∃ first rest, splitOn sep s = first :: rest := by
  cases s with
  | nil => exact ⟨[], [], rfl⟩
  | cons b s =>
    unfold splitOn
    split
    · exact ⟨_, _, rfl⟩
    · split <;> exact ⟨_, _, rfl⟩

theorem splitOn_cons_of_ne {sep b : UInt8} (hb : b ≠ sep) {s first : Bytes} {rest : List Bytes}
    (h : splitOn sep s = first :: rest) : splitOn sep (b :: s) = (b :: first) :: rest := by
  simp [splitOn, hb, h]

theorem splitOn_of_not_mem {sep : UInt8} {s : Bytes} (h : sep ∉ s) : splitOn sep s = [s] := by
  induction s with
  | nil => rfl
  | cons b s ih =>
    rw [List.mem_cons, not_or] at h
    exact splitOn_cons_of_ne (Ne.symm h.1) (ih h.2)

/-- The first piece of a text is followed by the separator. -/
theorem exists_of_splitOn {sep : UInt8} : ∀ {s first : Bytes} {rest : List Bytes},
    splitOn sep s = first :: rest → ∃ t, s = first ++ t ∧ ∀ c ∈ t.head?, c = sep
  | [], first, rest, h => by
    obtain ⟨rfl, -⟩ := List.cons.inj (show [[]] = first :: rest from h)
    exact ⟨[], rfl, by simp⟩
  | b :: s, first, rest, h => by
    by_cases hb : b = sep
    · subst hb
      rw [splitOn_cons_self] at h
      obtain ⟨rfl, -⟩ := List.cons.inj h
      exact ⟨b :: s, rfl, by simp⟩
    · obtain ⟨p, ps, hp⟩ := exists_splitOn_cons sep s
      rw [splitOn_cons_of_ne hb hp] at h
      obtain ⟨rfl, -⟩ := List.cons.inj h
      obtain ⟨t, rfl, ht⟩ := exists_of_splitOn hp
      exact ⟨t, rfl, ht⟩

/-- **The pieces of two texts in a row.** The last piece of the first is joined to the first piece
of the second. -/
theorem splitOn_append {sep : UInt8} {t first : Bytes} {rest : List Bytes}
    (ht : splitOn sep t = first :: rest) :
    ∀ {s : Bytes} {init : List Bytes} {last : Bytes}, splitOn sep s = init ++ [last] →
      splitOn sep (s ++ t) = init ++ (last ++ first) :: rest
  | [], init, last, hs => by
    obtain ⟨rfl, h⟩ := List.append_inj' (show [] ++ [[]] = init ++ [last] from hs) rfl
    cases h
    simpa using ht
  | b :: s, init, last, hs => by
    by_cases hb : b = sep
    · subst hb
      rw [splitOn_cons_self] at hs
      cases init with
      | nil =>
        obtain ⟨p, ps, hp⟩ := exists_splitOn_cons b s
        rw [hp] at hs
        cases hs
      | cons p init =>
        obtain ⟨rfl, hs'⟩ := List.cons.inj hs
        rw [List.cons_append, splitOn_cons_self, splitOn_append ht hs']
        rfl
    · obtain ⟨p, ps, hp⟩ := exists_splitOn_cons sep s
      rw [splitOn_cons_of_ne hb hp] at hs
      cases init with
      | nil =>
        obtain ⟨rfl, rfl⟩ := List.cons.inj hs
        rw [List.cons_append,
          splitOn_cons_of_ne hb (splitOn_append ht (show _ = [] ++ [p] from hp))]
        rfl
      | cons q init =>
        obtain ⟨rfl, rfl⟩ := List.cons.inj hs
        rw [List.cons_append, splitOn_cons_of_ne hb
          (splitOn_append ht (show _ = (p :: init) ++ [last] from hp))]
        rfl

/-- Joining the pieces again gives the text. -/
theorem join_splitOn (sep : UInt8) (s : Bytes) : join [sep] (splitOn sep s) = s := by
  induction s with
  | nil => rfl
  | cons b s ih =>
    obtain ⟨first, rest, h⟩ := exists_splitOn_cons sep s
    by_cases hb : b = sep
    · subst hb
      rw [splitOn_cons_self, h]
      rw [h] at ih
      simp [join, ih]
    · rw [splitOn_cons_of_ne hb h]
      rw [h] at ih
      cases rest with
      | nil => simpa [join] using ih
      | cons r rest => simpa [join] using ih

/-- Text before the first piece stays before the joined ones. -/
theorem join_append_head (sep a first : Bytes) (rest : List Bytes) :
    join sep ((a ++ first) :: rest) = a ++ join sep (first :: rest) := by
  cases rest <;> simp [join]

end Bytes

namespace Stylesheet

/-! ## Places -/

namespace Position

/-- The place of the first byte of a text. -/
def start : Position := ⟨1, 1⟩

@[simp] theorem advance_nil (p : Position) : p.advance [] = p := rfl

@[simp] theorem advance_append (p : Position) (s t : Bytes) :
    p.advance (s ++ t) = (p.advance s).advance t := by
  simp [advance]

/-- The place `p` comes before `q`. -/
def Before (p q : Position) : Prop := p.line < q.line ∨ p.line = q.line ∧ p.column < q.column

theorem Before.trans {p q r : Position} (h : p.Before q) (h' : q.Before r) : p.Before r := by
  unfold Before at *
  omega

theorem before_step (p : Position) (b : UInt8) : p.Before (p.step b) := by
  unfold Before step
  split
  · exact .inl (Nat.lt_succ_self _)
  · exact .inr ⟨rfl, Nat.lt_succ_self _⟩

/-- **Every byte leads to a later place.** -/
theorem before_advance (p : Position) : ∀ {s : Bytes}, s ≠ [] → p.Before (p.advance s)
  | [b], _ => before_step p b
  | b :: c :: s, _ => (before_step p b).trans (before_advance (p.step b) (by simp))

/-- **The place behind a text** is behind its last line. -/
theorem advance_start (s : Bytes) :
    ∃ init last, s.splitOn 0x0A = init ++ [last] ∧
      start.advance s = ⟨init.length + 1, last.length + 1⟩ := by
  induction s using List.reverseRecOn with
  | nil => exact ⟨[], [], rfl, rfl⟩
  | append_singleton s b ih =>
    obtain ⟨init, last, hs, hp⟩ := ih
    rw [advance_append, hp]
    by_cases hb : b = 0x0A
    · subst hb
      refine ⟨init ++ [last], [], ?_, by simp [advance, step]⟩
      rw [Bytes.splitOn_append (show Bytes.splitOn 0x0A [0x0A] = [] :: [[]] from rfl) hs]
      simp
    · refine ⟨init, last ++ [b], ?_, by simp [advance, step, hb]⟩
      rw [Bytes.splitOn_append (t := [b]) (Bytes.splitOn_cons_of_ne hb rfl) hs]

end Position

/-- The text from a place on: the lines from its line on, without the bytes before its column. -/
def textFrom (s : Bytes) (p : Position) : Bytes :=
  (Bytes.join [0x0A] ((s.splitOn 0x0A).drop (p.line - 1))).drop (p.column - 1)

/-- **What is read from the place behind a text** is what follows it. -/
theorem textFrom_advance (s t : Bytes) : textFrom (s ++ t) (Position.start.advance s) = t := by
  obtain ⟨init, last, hs, hp⟩ := Position.advance_start s
  obtain ⟨first, rest, ht⟩ := Bytes.exists_splitOn_cons 0x0A t
  unfold textFrom
  rw [hp, Bytes.splitOn_append ht hs]
  simp only [Nat.add_sub_cancel, List.drop_left]
  rw [Bytes.join_append_head, List.drop_left, ← ht, Bytes.join_splitOn]

/-- **The line of the place behind a text**: the last line of the text, and what follows of it. -/
theorem line_at_advance (s t : Bytes) :
    ∃ last first rest, t.splitOn 0x0A = first :: rest ∧
      ((s ++ t).splitOn 0x0A)[(Position.start.advance s).line - 1]? = some (last ++ first) ∧
      (Position.start.advance s).column = last.length + 1 := by
  obtain ⟨init, last, hs, hp⟩ := Position.advance_start s
  obtain ⟨first, rest, ht⟩ := Bytes.exists_splitOn_cons 0x0A t
  refine ⟨last, first, rest, ht, ?_, by rw [hp]⟩
  rw [hp, Bytes.splitOn_append ht hs]
  simp

theorem line_pos (s : Bytes) : 1 ≤ (Position.start.advance s).line := by
  obtain ⟨init, last, -, hp⟩ := Position.advance_start s
  rw [hp]
  exact Nat.succ_pos _

/-! ## Blanked comments -/

/-- The byte `b` stands where `a` stood: it is `a`, or a space in the place of a byte that is
neither a line feed nor a carriage return. -/
def Kept (a b : UInt8) : Prop := b = a ∨ b = 0x20 ∧ a ≠ 0x0A ∧ a ≠ 0x0D

theorem Kept.eq_iff {a b c : UInt8} (h : Kept a b) (hc : c = 0x0A ∨ c = 0x0D) : a = c ↔ b = c := by
  rcases h with rfl | ⟨rfl, h1, h2⟩
  · rfl
  · rcases hc with rfl | rfl
    · exact ⟨fun h => absurd h h1, fun h => absurd h (by decide)⟩
    · exact ⟨fun h => absurd h h2, fun h => absurd h (by decide)⟩

namespace LineComment

/-- One step keeps line feeds and carriage returns. -/
theorem step_kept (region : Region) (depth : Nat) (b : UInt8) (next : Option UInt8) :
    Kept b (step region depth b next).1 := by
  cases region with
  | code =>
    simp only [step]
    repeat' split
    all_goals first
      | exact .inl rfl
      | (rename_i h
         simp only [Bool.and_eq_true, beq_iff_eq] at h
         exact .inr ⟨rfl, by rw [h.1.1]; decide, by rw [h.1.1]; decide⟩)
  | line =>
    simp only [step]
    split
    · exact .inl rfl
    · rename_i hn
      split
      · exact .inl rfl
      · rename_i hr
        exact .inr ⟨rfl, by simpa using hn, by simpa using hr⟩
  | quoted mark =>
    simp only [step]
    repeat' split
    all_goals exact .inl rfl
  | block =>
    simp only [step]
    split <;> exact .inl rfl
  | _ => exact .inl rfl

theorem maskFrom_kept :
    ∀ (s : Bytes) (region : Region) (depth : Nat), List.Forall₂ Kept s (maskFrom region depth s)
  | [], _, _ => .nil
  | b :: s, region, depth => .cons (step_kept region depth b s.head?) (maskFrom_kept s _ _)

end LineComment

/-- **The text that is cut into tokens** has every byte of the content in its place, or a space for
it. -/
theorem codeOf_kept (filename content : Bytes) :
    List.Forall₂ Kept content (codeOf filename content) := by
  unfold codeOf
  split
  · exact LineComment.maskFrom_kept content .code 0
  · exact List.forall₂_same.2 fun _ _ => .inl rfl

theorem advance_kept {s t : Bytes} (h : List.Forall₂ Kept s t) : ∀ p : Position,
    p.advance s = p.advance t := by
  induction h with
  | nil => exact fun _ => rfl
  | @cons a b s t hab _ ih =>
    intro p
    have hstep : p.step a = p.step b := by
      have hiff := hab.eq_iff (.inl rfl)
      unfold Position.step
      by_cases ha : a = 0x0A
      · rw [ha, hiff.1 ha]
      · have hb : b ≠ 0x0A := fun hb => ha (hiff.2 hb)
        simp [ha, hb]
    show (p.step a).advance s = (p.step b).advance t
    rw [hstep, ih]

/-- **The lines stay in place**: those of a kept text are the kept lines. -/
theorem splitOn_kept {s t : Bytes} (h : List.Forall₂ Kept s t) :
    List.Forall₂ (List.Forall₂ Kept) (s.splitOn 0x0A) (t.splitOn 0x0A) := by
  induction h with
  | nil => exact .cons .nil .nil
  | @cons a b s t hab hst ih =>
    have hiff := hab.eq_iff (.inl rfl)
    by_cases ha : a = 0x0A
    · cases ha
      cases hiff.1 rfl
      rw [Bytes.splitOn_cons_self, Bytes.splitOn_cons_self]
      exact .cons .nil ih
    · obtain ⟨p, ps, hp⟩ := Bytes.exists_splitOn_cons 0x0A s
      obtain ⟨q, qs, hq⟩ := Bytes.exists_splitOn_cons 0x0A t
      rw [hp, hq] at ih
      rw [Bytes.splitOn_cons_of_ne ha hp, Bytes.splitOn_cons_of_ne (fun hb => ha (hiff.2 hb)) hq]
      cases ih with
      | cons hpq hps => exact .cons (.cons hab hpq) hps

/-- A line of a kept text, and the line whose place it has. -/
theorem exists_line_kept {ls ms : List Bytes} (h : List.Forall₂ (List.Forall₂ Kept) ls ms) :
    ∀ {i : Nat} {m : Bytes}, ms[i]? = some m → ∃ l, ls[i]? = some l ∧ List.Forall₂ Kept l m := by
  induction h with
  | nil => intro i m hm; simp at hm
  | cons hlm _ ih =>
    intro i m hm
    cases i with
    | zero =>
      cases hm
      exact ⟨_, rfl, hlm⟩
    | succ i => exact ih hm

theorem getLast?_kept {s t : Bytes} (h : List.Forall₂ Kept s t) :
    s.getLast? = some 0x0D ↔ t.getLast? = some 0x0D := by
  induction h with
  | nil => simp
  | @cons a b s t hab hst ih =>
    cases hst with
    | nil => simpa using hab.eq_iff (.inr rfl)
    | cons _ _ => simpa [List.getLast?_cons_cons] using ih

/-- A kept line has the length of the line, also without a carriage return at the end. -/
theorem withoutReturn_length_kept {s t : Bytes} (h : List.Forall₂ Kept s t) :
    (withoutReturn s).length = (withoutReturn t).length := by
  have hlast := getLast?_kept h
  have hlen := h.length_eq
  unfold withoutReturn
  by_cases hr : s.getLast? = some 0x0D
  · simp [hr, hlast.1 hr, hlen]
  · have ht : t.getLast? ≠ some 0x0D := fun ht => hr (hlast.2 ht)
    simp [hr, ht, hlen]

end Stylesheet

end VarLint
