import Mathlib.Data.List.Basic
import Mathlib.Data.List.TakeWhile
import VarLint.Regex.Leftmost

/-!
# The ends of matches in order of preference

The search for a preferred match tries the ends of all matches in a fixed order and takes the first
that what follows accepts. `ends` lists them in this order, without what follows:

* `prefer_eq`: the search is a search in this list, so `lengthAt_eq` reads a match off its first
  element.
* `ends_literal`, `ends_choice`, `ends_star_char`, `ends_plus_char`, `ends_opt`: the lists of the
  expressions that shorthands are made of.
* `deleteFrom_taken`, `deleteFrom_kept`: deleting matches takes a text apart from left to right.
-/

namespace VarLint

/-! ## Places -/

namespace Cursor

/-- The place that is a number of runes further on. -/
def move (p : Cursor) : Nat → Cursor
  | 0 => p
  | n + 1 =>
    match p.after with
    | [] => p
    | r :: rest => move ⟨p.index + 1, some r.char, rest⟩ n

@[simp] theorem move_zero (p : Cursor) : p.move 0 = p := by
  simp [move]

theorem move_cons {i : Nat} {before : Option Char} {r : Rune} {rest : List Rune} (n : Nat) :
    (⟨i, before, r :: rest⟩ : Cursor).move (n + 1) =
      (⟨i + 1, some r.char, rest⟩ : Cursor).move n := by
  simp [move]

@[simp] theorem after_move (p : Cursor) (n : Nat) : (p.move n).after = p.after.drop n := by
  induction n generalizing p with
  | zero => simp
  | succ n ih =>
    obtain ⟨i, before, after⟩ := p
    cases after with
    | nil => simp [move]
    | cons r rest => rw [move_cons, ih, List.drop_succ_cons]

theorem index_move {p : Cursor} {n : Nat} (h : n ≤ p.after.length) :
    (p.move n).index = p.index + n := by
  induction n generalizing p with
  | zero => simp
  | succ n ih =>
    obtain ⟨i, before, after⟩ := p
    cases after with
    | nil => simp at h
    | cons r rest =>
      rw [move_cons, ih (by simpa using h)]
      simp only
      omega

@[simp] theorem move_move (p : Cursor) (m n : Nat) : (p.move m).move n = p.move (m + n) := by
  induction m generalizing p with
  | zero => simp
  | succ m ih =>
    obtain ⟨i, before, after⟩ := p
    cases after with
    | nil => cases n <;> simp [move]
    | cons r rest => rw [move_cons, ih, Nat.add_right_comm, move_cons]

end Cursor

namespace Regex

/-! ## Ends -/

/-- The ends of `n` rounds. -/
def requiredEnds (body : Cursor → List Cursor) : Nat → Cursor → List Cursor
  | 0, p => [p]
  | n + 1, p => (body p).flatMap (requiredEnds body n)

/-- The ends of at most `n` rounds. -/
def upToEnds (body : Cursor → List Cursor) (greedy : Bool) : Nat → Cursor → List Cursor
  | 0, p => [p]
  | n + 1, p =>
    let more := (body p).flatMap (upToEnds body greedy n)
    if greedy then more ++ [p] else p :: more

/-- The ends of any number of rounds that each consume something, as many as `bound` has runes. -/
def anyTimesEnds (body : Cursor → List Cursor) (greedy : Bool) : List Rune → Cursor → List Cursor
  | [], p => [p]
  | _ :: bound, p =>
    let more := (body p).flatMap fun q =>
      if p.index < q.index then anyTimesEnds body greedy bound q else []
    if greedy then more ++ [p] else p :: more

/-- The ends of the matches that start at a place, the preferred first. -/
def ends : Regex → Cursor → List Cursor
  | .empty, p => [p]
  | .char k, p =>
    match p.after with
    | [] => []
    | r :: rest => if k.contains r.char then [⟨p.index + 1, some r.char, rest⟩] else []
  | .assertion a, p => if a.holds p.before (p.after.head?.map Rune.char) then [p] else []
  | .seq a b, p => (a.ends p).flatMap b.ends
  | .alt a b, p => a.ends p ++ b.ends p
  | .iterate least none greedy body, p =>
    (requiredEnds body.ends least p).flatMap fun q => anyTimesEnds body.ends greedy q.after q
  | .iterate least (some most) greedy body, p =>
    (requiredEnds body.ends least p).flatMap (upToEnds body.ends greedy (most - least))

section

variable {β : Type}

theorem findSome?_flatMap (f : Cursor → List Cursor) (next : Cursor → Option β) :
    ∀ l : List Cursor, (l.flatMap f).findSome? next = l.findSome? fun q => (f q).findSome? next
  | [] => rfl
  | q :: l => by
    rw [List.flatMap_cons, List.findSome?_append, findSome?_flatMap f next l, List.findSome?_cons]
    cases (f q).findSome? next <;> rfl

theorem orElse_eq (first second : Unit → Option β) :
    orElse first second = (first ()).or (second ()) := by
  unfold orElse
  cases first () <;> rfl

variable {body : Cursor → (Cursor → Option β) → Option β} {bodyEnds : Cursor → List Cursor}

theorem required_eq (hbody : ∀ p next, body p next = (bodyEnds p).findSome? next) :
    ∀ (n : Nat) (p : Cursor) (next : Cursor → Option β),
      required body n p next = (requiredEnds bodyEnds n p).findSome? next
  | 0, p, next => by simp [required, requiredEnds]
  | n + 1, p, next => by
    rw [required, hbody, requiredEnds, findSome?_flatMap]
    exact congrArg (List.findSome? · _) (funext fun q => required_eq hbody n q next)

theorem upTo_eq (hbody : ∀ p next, body p next = (bodyEnds p).findSome? next) (greedy : Bool) :
    ∀ (n : Nat) (p : Cursor) (next : Cursor → Option β),
      upTo body greedy n p next = (upToEnds bodyEnds greedy n p).findSome? next
  | 0, p, next => by simp [upTo, upToEnds]
  | n + 1, p, next => by
    have hmore : (body p fun q => upTo body greedy n q next) =
        ((bodyEnds p).flatMap (upToEnds bodyEnds greedy n)).findSome? next := by
      rw [hbody, findSome?_flatMap]
      exact congrArg (List.findSome? · _) (funext fun q => upTo_eq hbody greedy n q next)
    cases greedy with
    | true => simp [upTo, upToEnds, orElse_eq, hmore, List.findSome?_append]
    | false => simp [upTo, upToEnds, orElse_eq, hmore, List.findSome?_cons]; cases next p <;> rfl

theorem anyTimes_eq (hbody : ∀ p next, body p next = (bodyEnds p).findSome? next) (greedy : Bool) :
    ∀ (bound : List Rune) (p : Cursor) (next : Cursor → Option β),
      anyTimes body greedy bound p next = (anyTimesEnds bodyEnds greedy bound p).findSome? next
  | [], p, next => by simp [anyTimes, anyTimesEnds]
  | _ :: bound, p, next => by
    have hmore : (body p fun q => if p.index < q.index then anyTimes body greedy bound q next
          else none) = ((bodyEnds p).flatMap fun q =>
            if p.index < q.index then anyTimesEnds bodyEnds greedy bound q
              else []).findSome? next := by
      rw [hbody, findSome?_flatMap]
      refine congrArg (List.findSome? · _) (funext fun q => ?_)
      split
      · exact anyTimes_eq hbody greedy bound q next
      · rfl
    cases greedy with
    | true => simp [anyTimes, anyTimesEnds, orElse_eq, hmore, List.findSome?_append]
    | false => simp [anyTimes, anyTimesEnds, orElse_eq, hmore,
        List.findSome?_cons]; cases next p <;> rfl

end

/-- **The search for a match is a search among the ends**, in order of preference. -/
theorem prefer_eq {β : Type} (r : Regex) : ∀ (p : Cursor) (next : Cursor → Option β),
    r.prefer p next = (r.ends p).findSome? next := by
  induction r with
  | empty => intro p next; simp [prefer, ends]
  | char k =>
    intro p next
    unfold prefer ends
    cases p.after with
    | nil => rfl
    | cons r rest => simp only; split <;> simp
  | assertion a =>
    intro p next
    unfold prefer ends
    split <;> simp
  | seq a b iha ihb =>
    intro p next
    rw [prefer, iha, ends, findSome?_flatMap]
    exact congrArg (List.findSome? · _) (funext fun q => ihb q next)
  | alt a b iha ihb =>
    intro p next
    rw [prefer, orElse_eq, iha, ihb, ends, List.findSome?_append]
  | iterate least most greedy body ih =>
    intro p next
    cases most with
    | none =>
      rw [prefer, required_eq ih, ends, findSome?_flatMap]
      exact congrArg (List.findSome? · _) (funext fun q => anyTimes_eq ih greedy q.after q next)
    | some most =>
      rw [prefer, required_eq ih, ends, findSome?_flatMap]
      exact congrArg (List.findSome? · _) (funext fun q => upTo_eq ih greedy _ q next)

theorem lengthAt_eq (r : Regex) (p : Cursor) :
    r.lengthAt p = (r.ends p).head?.map fun q => q.index - p.index := by
  rw [lengthAt, prefer_eq]
  cases r.ends p <;> simp

/-- The first end of a sequence is found behind the first end of its start that goes on. -/
theorem head?_seq (a b : Regex) (p : Cursor) :
    ((Regex.seq a b).ends p).head? = (a.ends p).findSome? fun q => (b.ends q).head? := by
  rw [ends, List.head?_flatMap]

theorem ends_opt (r : Regex) (p : Cursor) : r.opt.ends p = r.ends p ++ [p] := by
  simp [opt, ends, requiredEnds, upToEnds]

/-- The place behind the preferred match, or the place itself if there is none. -/
def past (r : Regex) (p : Cursor) : Cursor := (r.ends p).head?.getD p

theorem past_of_head? {r : Regex} {p q : Cursor} (h : (r.ends p).head? = some q) :
    r.past p = q := by
  rw [past, h, Option.getD_some]

theorem past_of_ends_nil {r : Regex} {p : Cursor} (h : r.ends p = []) : r.past p = p := by
  rw [past, h, List.head?_nil, Option.getD_none]

theorem head?_opt (r : Regex) (p : Cursor) : (r.opt.ends p).head? = some (r.past p) := by
  rw [ends_opt, past]
  cases r.ends p <;> rfl

/-- Two optional expressions end behind what each of them prefers. -/
theorem head?_seq_opt (a b : Regex) (p : Cursor) :
    ((Regex.seq a.opt b.opt).ends p).head? = some (b.past (a.past p)) := by
  have hfirst := head?_opt a p
  rw [head?_seq]
  cases hends : a.opt.ends p with
  | nil => rw [hends] at hfirst; cases hfirst
  | cons q more =>
    rw [hends, List.head?_cons, Option.some.injEq] at hfirst
    rw [List.findSome?_cons, head?_opt, hfirst]

theorem ends_star {r : Regex} {p : Cursor} : r.star.ends p =
    anyTimesEnds r.ends true p.after p := by
  simp [star, ends, requiredEnds]

theorem anyTimesEnds_none {body : Cursor → List Cursor} {p : Cursor} (h : body p = [])
    (bound : List Rune) :
    anyTimesEnds body true bound p = [p] := by
  cases bound <;> simp [anyTimesEnds, h]

theorem ends_star_none {r : Regex} {p : Cursor} (h : r.ends p = []) : r.star.ends p = [p] := by
  rw [ends_star, anyTimesEnds_none h]

/-- Rounds that stop after the first. -/
theorem head?_star_once {r : Regex} {p q : Cursor} (h : (r.ends p).head? = some q)
    (hafter : p.after ≠ []) (hindex : p.index < q.index) (hq : r.ends q = []) :
    (r.star.ends p).head? = some q := by
  obtain ⟨x, bound, hbound⟩ := List.exists_cons_of_ne_nil hafter
  cases hends : r.ends p with
  | nil => rw [hends] at h; cases h
  | cons q' more =>
    obtain rfl : q' = q := by simpa [hends] using h
    rw [ends_star, hbound, anyTimesEnds, hends]
    simp [hindex, anyTimesEnds_none hq]

end Regex

/-! ## Classes -/

namespace CharClass

theorem contains_ofItem (spans : List Span) (c : Char) :
    (ofItem ⟨false, spans⟩).contains c = Span.anyContains spans c.toNat := by
  simp [ofItem, contains, ClassItem.contains]

@[simp] theorem contains_single (c d : Char) : (single false c.toNat).contains d = (d == c) := by
  show (ofItem ⟨false, [⟨c.toNat, c.toNat, 1⟩]⟩).contains d = _
  rw [contains_ofItem, Bool.eq_iff_iff]
  simp only [Span.anyContains, Span.contains, Nat.mod_one, List.any_cons, List.any_nil,
    Bool.or_false, Bool.and_eq_true, decide_eq_true_eq, beq_iff_eq, and_true, ← Char.toNat_inj]
  omega

@[simp] theorem contains_digit (c : Char) : (ofItem digitItem).contains c = c.isDigit := by
  rw [digitItem, contains_ofItem, Bool.eq_iff_iff]
  simp only [Span.anyContains, Span.contains, Nat.mod_one, List.any_cons, List.any_nil,
    Bool.or_false, Bool.and_eq_true, decide_eq_true_eq, beq_iff_eq, and_true, Char.isDigit,
    ge_iff_le, UInt32.le_iff_toNat_le]
  rfl

@[simp] theorem contains_word (c : Char) : (ofItem wordItem).contains c = isWordChar c := by
  rw [wordItem, contains_ofItem, Bool.eq_iff_iff]
  simp only [Span.anyContains, Span.contains, Nat.mod_one, List.any_cons, List.any_nil,
    Bool.or_false, Bool.or_eq_true, Bool.and_eq_true, decide_eq_true_eq, beq_iff_eq, and_true,
    isWordChar, Char.le_def, UInt32.le_iff_toNat_le, ← Char.toNat_inj]
  have hu : '_'.toNat = 0x5F := rfl
  have hrange : ∀ a z : Char, (a.val.toNat ≤ c.val.toNat ∧ c.val.toNat ≤ z.val.toNat) ↔
      (a.toNat ≤ c.toNat ∧ c.toNat ≤ z.toNat) := fun a z => Iff.rfl
  have h09 : '0'.toNat = 0x30 ∧ '9'.toNat = 0x39 := ⟨rfl, rfl⟩
  have hAZ : 'A'.toNat = 0x41 ∧ 'Z'.toNat = 0x5A := ⟨rfl, rfl⟩
  have haz : 'a'.toNat = 0x61 ∧ 'z'.toNat = 0x7A := ⟨rfl, rfl⟩
  rw [hrange, hrange, hrange, hu, h09.1, h09.2, hAZ.1, hAZ.2, haz.1, haz.2]
  omega

@[simp] theorem contains_anyButNewline (c : Char) : anyButNewline.contains c = !(c == '\n') := by
  have hneg : anyButNewline.contains c = !(single false '\n'.toNat).contains c := by
    simp [anyButNewline, single, contains]
  rw [hneg, contains_single]

end CharClass

namespace Regex

/-! ## The ends of simple expressions -/

/-- A word that starts a text does not reach over a character that words do not have. -/
theorem prefix_of_prefix_append {q : Char → Bool} {j u v : List Char} (hj : ∀ c ∈ j, q c = true)
    (hv : ∀ c ∈ v.head?, q c = false) (h : j <+: u ++ v) : j <+: u := by
  rcases List.prefix_or_prefix_of_prefix h (List.prefix_append u v) with hu | ⟨t, rfl⟩
  · exact hu
  · cases t with
    | nil => simp
    | cons c t =>
      obtain ⟨more, rfl⟩ := (List.prefix_append_right_inj u).1 h
      have := hv c rfl
      rw [hj c (by simp)] at this
      cases this

theorem ends_char (k : CharClass) (p : Cursor) :
    (Regex.char k).ends p =
      if p.after.head?.any fun r => k.contains r.char then [p.move 1] else [] := by
  obtain ⟨i, before, after⟩ := p
  cases after with
  | nil => simp [ends]
  | cons r rest => by_cases h : k.contains r.char = true <;> simp [ends, Cursor.move, h]

theorem ends_sequence (cs : List Char) (p : Cursor) :
    (sequence (cs.map fun c => .char (.single false c.toNat))).ends p =
      if cs.isPrefixOf (p.after.map Rune.char) then [p.move cs.length] else [] := by
  induction cs generalizing p with
  | nil => simp [sequence, ends]
  | cons c cs ih =>
    have hstep : (sequence ((c :: cs).map fun c => .char (.single false c.toNat))).ends p =
        ((Regex.char (.single false c.toNat)).ends p).flatMap
          (sequence (cs.map fun c => .char (.single false c.toNat))).ends := by
      cases cs with
      | nil => simp [sequence, ends]
      | cons d cs => rfl
    rw [hstep, ends_char]
    cases hafter : p.after with
    | nil => simp
    | cons r rest =>
      by_cases hr : r.char = c
      · simp [hr, ih, hafter, Nat.add_comm]
      · simp [hr, Ne.symm hr]

theorem ends_literal (k : String) (p : Cursor) : (literal k).ends p =
    if k.toList.isPrefixOf (p.after.map Rune.char) then [p.move k.toList.length] else [] :=
  ends_sequence k.toList p

theorem ends_choice_cons (r : Regex) (rs : List Regex) (p : Cursor) :
    (choice (r :: rs)).ends p = r.ends p ++ (choice rs).ends p := by
  cases rs with
  | nil =>
    have hnone : (choice []).ends p = [] := by
      rw [choice, ends_char]
      simp [CharClass.contains]
    rw [hnone, choice, List.append_nil]
  | cons r' rs => rfl

/-- **The ends of a choice of words** are behind the words with which the text goes on. -/
theorem ends_choice (ks : List String) (p : Cursor) : (choice (ks.map literal)).ends p =
    (ks.filter fun k => k.toList.isPrefixOf (p.after.map Rune.char)).map
      fun k => p.move k.toList.length := by
  induction ks with
  | nil =>
    rw [List.map_nil, choice, ends_char]
    simp [CharClass.contains]
  | cons k ks ih =>
    rw [List.map_cons, ends_choice_cons, ends_literal, ih]
    by_cases h : k.toList.isPrefixOf (p.after.map Rune.char) <;> simp [h]

/-- The preferred end of a choice of words where the text goes on with one of them, none of which
starts another. -/
theorem head?_choice (ks : List String) {k : String} {p : Cursor} (hk : k ∈ ks)
    (hp : k.toList <+: p.after.map Rune.char)
    (honly : ∀ j ∈ ks, j.toList <+: p.after.map Rune.char → j = k) :
    ((choice (ks.map literal)).ends p).head? = some (p.move k.toList.length) := by
  rw [ends_choice, List.head?_map]
  have hmem : k ∈ ks.filter fun j => j.toList.isPrefixOf (p.after.map Rune.char) :=
    List.mem_filter.2 ⟨hk, List.isPrefixOf_iff_prefix.2 hp⟩
  cases hf : ks.filter fun j => j.toList.isPrefixOf (p.after.map Rune.char) with
  | nil => rw [hf] at hmem; cases hmem
  | cons j more =>
    have hj : j ∈ ks.filter fun j => j.toList.isPrefixOf (p.after.map Rune.char) := by simp [hf]
    rw [List.mem_filter, List.isPrefixOf_iff_prefix] at hj
    rw [List.head?_cons, Option.map_some, honly j hj.1 hj.2]

theorem ends_choice_none (ks : List String) {p : Cursor}
    (h : ∀ k ∈ ks, ¬ k.toList <+: p.after.map Rune.char) :
    (choice (ks.map literal)).ends p = [] := by
  rw [ends_choice, List.map_eq_nil_iff, List.filter_eq_nil_iff]
  intro k hk
  rw [List.isPrefixOf_iff_prefix]
  exact h k hk

/-- The numbers from `n` down to zero. -/
def downFrom : Nat → List Nat
  | 0 => [0]
  | n + 1 => (n + 1) :: downFrom n

theorem downFrom_succ (n : Nat) : downFrom (n + 1) = (downFrom n).map (· + 1) ++ [0] := by
  induction n with
  | zero => rfl
  | succ n ih => exact congrArg ((n + 1 + 1) :: ·) ih

theorem mem_downFrom {n m : Nat} : m ∈ downFrom n ↔ m ≤ n := by
  induction n with
  | zero => simp [downFrom]
  | succ n ih =>
    rw [downFrom, List.mem_cons, ih]
    omega

theorem findSome?_downFrom {β : Type} {next : Nat → Option β} {n m : Nat} {b : β} (hm : m ≤ n)
    (hb : next m = some b) (hnone : ∀ i, m < i → i ≤ n → next i = none) :
    (downFrom n).findSome? next = some b := by
  induction n with
  | zero =>
    obtain rfl : m = 0 := by omega
    simp [downFrom, hb]
  | succ n ih =>
    rw [downFrom, List.findSome?_cons]
    by_cases heq : m = n + 1
    · rw [← heq, hb]
    · rw [hnone (n + 1) (by omega) (by omega)]
      exact ih (by omega) fun i hi hn => hnone i hi (by omega)

/-- The number of runes of a class with which a text starts. -/
def run (k : CharClass) (rs : List Rune) : Nat := (rs.takeWhile fun r => k.contains r.char).length

theorem run_append {k : CharClass} {w rest : List Rune} (hw : ∀ r ∈ w, k.contains r.char = true)
    (hrest : ∀ r ∈ rest.head?, k.contains r.char = false) : run k (w ++ rest) = w.length := by
  have hstop : rest.takeWhile (fun r => k.contains r.char) = [] := by
    cases rest with
    | nil => rfl
    | cons r rest => simp [hrest r rfl]
  rw [run, List.takeWhile_append_of_pos hw, hstop, List.append_nil]

/-- **Rounds of one character** end behind every part of its run, the longest first. -/
theorem ends_star_char (k : CharClass) (p : Cursor) :
    (Regex.star (.char k)).ends p = (downFrom (run k p.after)).map p.move := by
  have hany : ∀ (rs : List Rune) (p : Cursor), p.after = rs →
      anyTimesEnds (Regex.char k).ends true rs p = (downFrom (run k rs)).map p.move := by
    intro rs
    induction rs with
    | nil => intro p _; simp [anyTimesEnds, run, downFrom]
    | cons r rest ih =>
      intro p hp
      have hindex : p.index < (p.move 1).index := by
        rw [Cursor.index_move (by simp [hp])]
        omega
      rw [anyTimesEnds, ends_char, hp]
      by_cases hr : k.contains r.char = true
      · have hrun : run k (r :: rest) = run k rest + 1 := by simp [run, hr]
        have hmove : (p.move 1).move = fun i => p.move (i + 1) :=
          funext fun i => by rw [Cursor.move_move, Nat.add_comm]
        rw [hrun, downFrom_succ, List.map_append, List.map_map]
        simp [hr, hindex, ih (p.move 1) (by simp [hp]), hmove, Function.comp_def]
      · have hrun : run k (r :: rest) = 0 := by simp [run, hr]
        simp [hr, hrun, downFrom]
  rw [star, ends]
  simp only [requiredEnds, List.flatMap_cons, List.flatMap_nil, List.append_nil]
  exact hany p.after p rfl

theorem ends_plus_char (k : CharClass) (p : Cursor) : (Regex.plus (.char k)).ends p =
    if run k p.after = 0 then []
    else (downFrom (run k p.after - 1)).map fun i => p.move (i + 1) := by
  have hplus : (Regex.plus (.char k)).ends p =
      ((Regex.char k).ends p).flatMap (Regex.star (.char k)).ends := by
    show (((Regex.char k).ends p).flatMap fun q => [q]).flatMap _ = _
    rw [List.flatMap_assoc]
    rfl
  rw [hplus, ends_char]
  cases hp : p.after with
  | nil => simp [run]
  | cons r rest =>
    by_cases hr : k.contains r.char = true
    · have hrun : run k (r :: rest) = run k rest + 1 := by simp [run, hr]
      simp [hr, ends_star_char, hp, hrun, Nat.add_comm]
    · have hrun : run k (r :: rest) = 0 := by simp [run, hr]
      simp [hr, hrun]

/-- One or more rounds of one character end behind every run of its class. -/
theorem mem_ends_plus_char {k : CharClass} {p q : Cursor} : q ∈ (Regex.plus (.char k)).ends p ↔
    ∃ w rest, w ≠ [] ∧ p.after = w ++ rest ∧ (∀ r ∈ w, k.contains r.char = true) ∧
      q = p.move w.length := by
  rw [ends_plus_char]
  constructor
  · intro hq
    split at hq
    · cases hq
    · next hrun =>
      obtain ⟨i, hi, rfl⟩ := List.mem_map.1 hq
      rw [mem_downFrom] at hi
      obtain ⟨front, hfront⟩ : ∃ front, front = p.after.takeWhile fun r => k.contains r.char :=
        ⟨_, rfl⟩
      have hlen : i + 1 ≤ front.length := by
        rw [run, ← hfront] at hi hrun
        omega
      refine ⟨front.take (i + 1),
        front.drop (i + 1) ++ p.after.dropWhile fun r => k.contains r.char, ?_, ?_, ?_, ?_⟩
      · rw [← List.length_pos_iff, List.length_take]
        omega
      · rw [← List.append_assoc, List.take_append_drop, hfront, List.takeWhile_append_dropWhile]
      · intro r hr
        have hmem := List.mem_of_mem_take hr
        rw [hfront] at hmem
        exact List.mem_takeWhile_imp (p := fun r : Rune => k.contains r.char) hmem
      · rw [List.length_take, Nat.min_eq_left hlen]
  · rintro ⟨w, rest, hne, hp, hw, rfl⟩
    have hpos : 0 < w.length := List.length_pos_iff.2 hne
    have hrun : w.length ≤ run k p.after := by
      rw [run, hp, List.takeWhile_append_of_pos hw, List.length_append]
      omega
    rw [if_neg (by omega)]
    refine List.mem_map.2 ⟨w.length - 1, mem_downFrom.2 (by omega), ?_⟩
    rw [Nat.sub_add_cancel hpos]

theorem ends_plus_char_none {k : CharClass} {p : Cursor}
    (h : ∀ r ∈ p.after.head?, k.contains r.char = false) : (Regex.plus (.char k)).ends p = [] := by
  rw [ends_plus_char, show run k p.after = 0 from run_append (w := []) (by simp) h, if_pos rfl]

/-- One or more rounds of one character prefer to end behind the whole run. -/
theorem ends_plus_char_run {k : CharClass} {p : Cursor} {w rest : List Rune}
    (hp : p.after = w ++ rest) (hne : w ≠ []) (hw : ∀ r ∈ w, k.contains r.char = true)
    (hrest : ∀ r ∈ rest.head?, k.contains r.char = false) :
    ∃ more, (Regex.plus (.char k)).ends p = p.move w.length :: more := by
  have hlen : 0 < w.length := List.length_pos_iff.2 hne
  rw [ends_plus_char, hp, run_append hw hrest, if_neg (by omega)]
  cases hn : w.length - 1 with
  | zero => exact ⟨[], by rw [downFrom, show w.length = 0 + 1 by omega]; rfl⟩
  | succ n => exact ⟨_, by rw [downFrom, show w.length = n + 1 + 1 by omega]; rfl⟩

/-! ## Deleting matches -/

/-- The preferred match at the start of a text takes `n` runes, whatever stands before. -/
def Takes (r : Regex) (n : Nat) (rs : List Rune) : Prop :=
  ∀ before, r.lengthAt ⟨0, before, rs⟩ = some n

theorem takes_of_head? {r : Regex} {n : Nat} {rs : List Rune} (hn : n ≤ rs.length)
    (h : ∀ before, (r.ends ⟨0, before, rs⟩).head? = some ((⟨0, before, rs⟩ : Cursor).move n)) :
    r.Takes n rs := by
  intro before
  rw [lengthAt_eq, h before, Option.map_some, Cursor.index_move hn]
  simp

/-- The character before a place behind some runes. -/
def lastChar (before : Option Char) : List Rune → Option Char
  | [] => before
  | r :: rs => lastChar (some r.char) rs

theorem deleteFrom_skip (r : Regex) : ∀ (w rest : List Rune) (before : Option Char),
    r.deleteFrom w.length before (w ++ rest) = r.deleteFrom 0 (lastChar before w) rest
  | [], _, _ => rfl
  | x :: w, rest, _ => deleteFrom_skip r w rest (some x.char)

theorem deleteFrom_sublist (r : Regex) : ∀ (rs : List Rune) (skip : Nat) (before : Option Char),
    (r.deleteFrom skip before rs).Sublist rs
  | [], _, _ => by simp [deleteFrom]
  | x :: xs, skip + 1, _ => (deleteFrom_sublist r xs skip (some x.char)).cons x
  | x :: xs, 0, before => by
    rw [deleteFrom]
    split
    · exact (deleteFrom_sublist r xs _ (some x.char)).cons x
    · exact (deleteFrom_sublist r xs 0 (some x.char)).cons_cons x

/-- **What a match takes is deleted.** -/
theorem deleteFrom_taken {r : Regex} {w rest : List Rune} (hw : w ≠ [])
    (h : r.Takes w.length (w ++ rest)) (before : Option Char) :
    r.deleteFrom 0 before (w ++ rest) = r.deleteFrom 0 (lastChar before w) rest := by
  cases w with
  | nil => exact absurd rfl hw
  | cons x w =>
    have hx := h before
    rw [List.cons_append] at hx
    rw [List.cons_append, deleteFrom, hx]
    exact deleteFrom_skip r w rest (some x.char)

/-- **Where no match takes anything**, the runes are kept. -/
theorem deleteFrom_kept {r : Regex} {rest : List Rune} : ∀ {w : List Rune},
    (∀ u x v, w = u ++ x :: v → r.Takes 0 (x :: v ++ rest)) → ∀ before,
      r.deleteFrom 0 before (w ++ rest) = w ++ r.deleteFrom 0 (lastChar before w) rest
  | [], _, _ => rfl
  | x :: w, h, before => by
    have hx := h [] x w rfl before
    rw [List.cons_append] at hx
    rw [List.cons_append, deleteFrom, hx]
    refine congrArg (x :: ·) (deleteFrom_kept (fun u y v hw => ?_) (some x.char))
    exact h (x :: u) y v (by rw [hw]; rfl)

end Regex

end VarLint
