import Mathlib.Data.List.TakeWhile
import VarLint.Proofs.CommentText

/-!
# Blanking line comments keeps the layout

The blanked text has the length of the text, and every line has its length and its place. What was
blanked once stays as it is.

* `step_again`, `maskFrom_again`: the blanked text is read as the text was, with code in the place
  of line comments (`Region.again`). A byte looks one byte ahead, and what it sees there has changed
  only where that makes no difference (`head?_maskFrom`).
* `overwrite?`: the blanking as a walk over a buffer that is read and written in place, with jumps
  over escaped bytes, block comments and line comments. An access outside of the buffer or the text
  fails.
* `overwrite?_eq`: the walk does not fail, and it leaves what `mask` gives.
* `mask_layout`: **what blanking keeps**, of every text.
-/

namespace VarLint.Stylesheet.LineComment

/-! ## Blanking again -/

/-- The region in which the place is read again behind blanked comments. -/
def Region.again : Region → Region
  | .line => .code
  | region => region

/-- A byte that is not kept becomes a space. It stands in a line comment or opens one. -/
theorem step_kept_or_space (region : Region) (depth : Nat) (b : UInt8) (next : Option UInt8) :
    (step region depth b next).1 = b ∨ (step region depth b next).1 = 0x20 ∧
      (region = .line ∨ region = .code ∧ depth = 0 ∧ b = 0x2F) := by
  cases region with
  | code =>
    simp only [step]
    repeat' split
    all_goals simp_all
  | line =>
    simp only [step]
    repeat' split
    all_goals simp
  | quoted mark =>
    simp only [step]
    repeat' split
    all_goals simp
  | block =>
    simp only [step]
    split <;> simp
  | _ => exact .inl rfl

/-- **The byte that is seen ahead** is the same in the blanked text, or it is in a line comment. -/
theorem head?_maskFrom (region : Region) (depth : Nat) (s : Bytes) :
    (maskFrom region depth s).head? = s.head? ∨ (maskFrom region depth s).head? = some 0x20 ∧
      (region = .line ∨ region = .code ∧ depth = 0 ∧ s.head? = some 0x2F) := by
  cases s with
  | nil => exact .inl rfl
  | cons b s => simpa [maskFrom_cons] using step_kept_or_space region depth b s.head?

/-- **A step over what a step has written** keeps it, and goes where that step went. -/
theorem step_again {region : Region} {depth : Nat} {b : UInt8} {next next' : Option UInt8}
    (hnext : next' = next ∨ next' = some 0x20 ∧ ((step region depth b next).2.1 = .line ∨
      (step region depth b next).2.1 = .code ∧ (step region depth b next).2.2 = 0 ∧
        next = some 0x2F)) :
    step region.again depth (step region depth b next).1 next' =
      ((step region depth b next).1, (step region depth b next).2.1.again,
        (step region depth b next).2.2) := by
  generalize hstep : step region depth b next = written at hnext ⊢
  cases region with
  -- code and block comments look ahead, and what they see is blanked only where a comment opens
  | code =>
    simp only [step] at hstep
    repeat' split at hstep
    all_goals
      subst hstep
      rcases hnext with rfl | ⟨rfl, hregion⟩
      all_goals grind [step, Region.again]
  | line =>
    simp only [step] at hstep
    repeat' split at hstep
    all_goals
      subst hstep
      simp_all [step, Region.again]
  | quoted mark =>
    simp only [step] at hstep
    repeat' split at hstep
    all_goals
      subst hstep
      simp_all [step, Region.again]
  | block =>
    simp only [step] at hstep
    split at hstep
    all_goals
      subst hstep
      rcases hnext with rfl | ⟨rfl, hregion⟩
      all_goals grind [step, Region.again]
  | escaped mark => exact hstep ▸ rfl
  | blockStart => exact hstep ▸ rfl
  | blockEnd => exact hstep ▸ rfl

/-- **Blanking again changes nothing**, from any region on. -/
theorem maskFrom_again : ∀ (s : Bytes) (region : Region) (depth : Nat),
    maskFrom region.again depth (maskFrom region depth s) = maskFrom region depth s
  | [], _, _ => rfl
  | b :: s, region, depth => by
    rw [maskFrom_cons, maskFrom_cons, step_again (head?_maskFrom _ _ s), maskFrom_again s]

/-! ## Blanking in place -/

/-- The text from a place on; the place may be the end of the text, but not behind it. -/
def from? (s : Bytes) (i : Nat) : Option Bytes := if i ≤ s.length then some (s.drop i) else none

/-- The buffer with another byte at a place, which has to be in the buffer. -/
def write? (out : Bytes) (i : Nat) (b : UInt8) : Option Bytes :=
  if i < out.length then some (out.set i b) else none

def blankAt? (out : Bytes) (i : Nat) (b : UInt8) : Option Bytes :=
  -- a carriage return belongs to the line end
  if b == 0x0D then some out else write? out i 0x20

/-- Blanks a buffer of the given size from place `i` to the end of the line, and tells how many
bytes that are. -/
def blankLine? (size : Nat) (out : Bytes) (i : Nat) : Option (Bytes × Nat) :=
  if i < size then do
    let b ← out[i]?
    if b == 0x0A then some (out, 0)
    else do
      let out ← blankAt? out i b
      let (out, n) ← blankLine? size out (i + 1)
      some (out, n + 1)
  else some (out, 0)
termination_by size - i

/-- Goes on with the blanking of `content` from place `i`, where a string may be open, in a
buffer. -/
def overwriteFrom? (content out : Bytes) (quote : Option UInt8) (depth i : Nat) : Option Bytes :=
  if i < content.length then do
    let b ← out[i]?
    match quote with
    | some mark =>
      if b == 0x5C then overwriteFrom? content out (some mark) depth (i + 2)
      else if b == mark || b == 0x0A then overwriteFrom? content out none depth (i + 1)
      else overwriteFrom? content out (some mark) depth (i + 1)
    | none =>
      if b == 0x22 || b == 0x27 then overwriteFrom? content out (some b) depth (i + 1)
      else if b == 0x28 then overwriteFrom? content out none (depth + 1) (i + 1)
      else if b == 0x29 then overwriteFrom? content out none (depth - 1) (i + 1)
      else if b == 0x2F && decide (i + 1 < content.length) then do
        let next ← out[i + 1]?
        if next == 0x2A then do
          let rest ← from? content (i + 2)
          match Bytes.cut? "*/" rest with
          -- nothing closes the comment, so it is the rest of the text
          | none => some out
          | some (inside, _) => overwriteFrom? content out none depth (i + inside.length + 4)
        else if next == 0x2F && depth == 0 then do
          let (out, n) ← blankLine? content.length out i
          overwriteFrom? content out none depth (i + n + 1)
        else overwriteFrom? content out none depth (i + 1)
      else overwriteFrom? content out none depth (i + 1)
  else some out
termination_by content.length - i

/-- Blanks the line comments of a text in a copy of it. -/
def overwrite? (content : Bytes) : Option Bytes := overwriteFrom? content content none 0 0

/-! ## The walk and the regions -/

/-- **A comment is blanked in place** up to the end of its line. -/
theorem blankLine?_append (done rest : Bytes) :
    blankLine? (done.length + rest.length) (done ++ rest) done.length = some
      (done ++ ((rest.takeWhile (· != 0x0A)).map blank ++ rest.dropWhile (· != 0x0A)),
        (rest.takeWhile (· != 0x0A)).length) := by
  induction rest generalizing done with
  | nil => rw [blankLine?]; simp
  | cons b rest ih =>
    have hread : (done ++ b :: rest)[done.length]? = some b := by simp
    rw [blankLine?, if_pos (by simp), hread, Option.bind_eq_bind, Option.bind_some]
    by_cases hfeed : b = 0x0A
    · simp [hfeed]
    · have hwrite : blankAt? (done ++ b :: rest) done.length b =
          some (done ++ blank b :: rest) := by
        by_cases hreturn : b = 0x0D
        · simp [blankAt?, hreturn, blank]
        · simp [blankAt?, hreturn, blank, write?]
      have hnext := ih (done ++ [blank b])
      simp only [List.length_append, List.length_singleton, List.append_assoc,
        List.singleton_append, Nat.add_assoc, Nat.add_comm 1] at hnext
      rw [if_neg (by simpa using hfeed), hwrite, Option.bind_eq_bind, Option.bind_some,
        List.length_cons, hnext]
      simp [hfeed]

/-- **A block comment** is kept up to the first place where it can end. -/
theorem maskFrom_block (depth : Nat) : ∀ s : Bytes,
    (Bytes.cut? "*/" s = none ∧ maskFrom .block depth s = s) ∨
      ∃ inside rest, Bytes.cut? "*/" s = some (inside, rest) ∧
        s = inside ++ 0x2A :: 0x2F :: rest ∧
          maskFrom .block depth s = inside ++ 0x2A :: 0x2F :: maskFrom .code depth rest
  | [] => .inl ⟨rfl, rfl⟩
  | b :: s => by
    have hclosing : Bytes.ofString "*/" = [0x2A, 0x2F] := rfl
    by_cases hends : b = 0x2A ∧ s.head? = some 0x2F
    · obtain ⟨rfl, hhead⟩ := hends
      obtain ⟨rest, rfl⟩ := List.head?_eq_some_iff.1 hhead
      exact .inr ⟨[], rest, by simp [Bytes.cut?, hclosing], rfl, rfl⟩
    · have hcut : Bytes.cut? "*/" (b :: s) =
          (Bytes.cut? "*/" s).map fun parts => (b :: parts.1, parts.2) := by
        have hno : ¬(Bytes.ofString "*/").isPrefixOf (b :: s) := by
          rw [hclosing, List.isPrefixOf_iff_prefix]
          rintro ⟨t, ht⟩
          cases ht
          exact hends ⟨rfl, rfl⟩
        rw [Bytes.cut?, if_neg hno]
      have hstep : step .block depth b s.head? = (b, .block, depth) := by
        simpa [step] using hends
      rw [maskFrom_cons, hstep, hcut]
      obtain ⟨hnone, hmask⟩ | ⟨inside, rest, hsome, hs, hmask⟩ := maskFrom_block depth s
      · exact .inl ⟨by rw [hnone]; rfl, by rw [hmask]⟩
      · exact .inr ⟨b :: inside, rest, by rw [hsome]; rfl, by rw [hs]; rfl, by rw [hmask]; rfl⟩

/-- **A line comment** is blanked up to the end of its line, and code follows on the next line. -/
theorem maskFrom_line_break (depth : Nat) (s : Bytes) :
    maskFrom .line depth s = (s.takeWhile (· != 0x0A)).map blank ++
      ((s.dropWhile (· != 0x0A)).take 1 ++
        maskFrom .code depth ((s.dropWhile (· != 0x0A)).drop 1)) := by
  have hfeed : 0x0A ∉ s.takeWhile (· != 0x0A) := fun hm => by
    simpa using List.mem_takeWhile_imp hm
  have hbreak : ∀ t : Bytes, t.head?.all (· == 0x0A) →
      maskFrom .line depth t = t.take 1 ++ maskFrom .code depth (t.drop 1) := by
    intro t ht
    cases t with
    | nil => rfl
    | cons b t =>
      obtain rfl : b = 0x0A := by simpa using ht
      rfl
  have hhead : (s.dropWhile (· != 0x0A)).head?.all (· == 0x0A) := by
    cases hd : s.dropWhile (· != 0x0A) with
    | nil => rfl
    | cons b t => simpa [hd] using List.head?_dropWhile_not (· != 0x0A) s
  rw [← hbreak _ hhead, ← maskFrom_line depth _ hfeed, List.takeWhile_append_dropWhile]

/-- The region of a place where a string may be open. -/
def Region.ofQuote : Option UInt8 → Region
  | none => .code
  | some mark => .quoted mark

@[simp] theorem Region.ofQuote_none : Region.ofQuote none = .code := rfl

@[simp] theorem Region.ofQuote_some (mark : UInt8) :
    Region.ofQuote (some mark) = .quoted mark := rfl

/-- The walk does right from every later place on: behind `pre`, which is `pre'` in the buffer. -/
def DoesRightBehind (before done rest : Bytes) : Prop :=
  ∀ (pre pre' rest' : Bytes) (quote : Option UInt8) (depth : Nat), pre ≠ [] →
    pre'.length = pre.length → rest = pre ++ rest' →
    overwriteFrom? (before ++ rest) (done ++ (pre' ++ rest')) quote depth
      (before.length + pre.length) = some (done ++ (pre' ++ maskFrom (.ofQuote quote) depth rest'))

theorem overwriteFrom?_end {content : Bytes} {i : Nat} (h : content.length ≤ i) (out : Bytes)
    (quote : Option UInt8) (depth : Nat) : overwriteFrom? content out quote depth i = some out := by
  rw [overwriteFrom?, if_neg (Nat.not_lt.2 h)]

section
variable {before done rest : Bytes} (hdone : done.length = before.length) {b : UInt8}

include hdone in
theorem getElem?_place : (done ++ b :: rest)[before.length]? = some b := by
  simp [← hdone]

theorem DoesRightBehind.one (h : DoesRightBehind before done (b :: rest)) (quote : Option UInt8)
    (depth : Nat) :
    overwriteFrom? (before ++ b :: rest) (done ++ b :: rest) quote depth (before.length + 1) =
      some (done ++ b :: maskFrom (.ofQuote quote) depth rest) :=
  h [b] [b] rest quote depth (by simp) rfl rfl

include hdone in
/-- **In a string** a backslash skips a byte, also at the end, where there is none. -/
theorem overwriteFrom?_quoted (h : DoesRightBehind before done (b :: rest)) (mark : UInt8)
    (depth : Nat) :
    overwriteFrom? (before ++ b :: rest) (done ++ b :: rest) (some mark) depth before.length =
      some (done ++ maskFrom (.quoted mark) depth (b :: rest)) := by
  rw [overwriteFrom?, if_pos (by simp), getElem?_place hdone, Option.bind_eq_bind, Option.bind_some,
    maskFrom_cons]
  by_cases hescape : b = 0x5C
  · subst hescape
    have hstep : step (.quoted mark) depth 0x5C rest.head? = (0x5C, .escaped mark, depth) := rfl
    rw [hstep]
    cases rest with
    | nil => exact overwriteFrom?_end (by simp) _ _ _
    | cons c rest => exact h [0x5C, c] [0x5C, c] rest (some mark) depth (by simp) rfl rfl
  · by_cases hends : b = mark ∨ b = 0x0A
    · simp [step, hescape, hends, h.one]
    · simp [step, hescape, hends, h.one]

include hdone in
/-- **A block comment** is skipped, to the end of the text if nothing closes it. -/
theorem overwriteFrom?_block (h : DoesRightBehind before done (0x2F :: 0x2A :: rest))
    (depth : Nat) :
    overwriteFrom? (before ++ 0x2F :: 0x2A :: rest) (done ++ 0x2F :: 0x2A :: rest) none depth
      before.length = some (done ++ maskFrom .code depth (0x2F :: 0x2A :: rest)) := by
  have hnext : (done ++ 0x2F :: 0x2A :: rest)[before.length + 1]? = some 0x2A := by simp [← hdone]
  have hfrom : from? (before ++ 0x2F :: 0x2A :: rest) (before.length + 2) = some rest := by
    simp [from?]
  have hcode : maskFrom .code depth (0x2F :: 0x2A :: rest) =
      0x2F :: 0x2A :: maskFrom .block depth rest := rfl
  rw [overwriteFrom?, if_pos (by simp), getElem?_place hdone]
  simp only [Option.bind_eq_bind, Option.bind_some, hnext, hfrom, hcode]
  rw [if_neg (by decide), if_neg (by decide), if_neg (by decide), if_pos (by simp),
    if_pos (by decide)]
  obtain ⟨hcut, hmask⟩ | ⟨inside, tail, hcut, hrest, hmask⟩ := maskFrom_block depth rest
  · rw [hcut, hmask]
  · rw [hcut, hmask]
    have hgo := h (0x2F :: 0x2A :: inside ++ [0x2A, 0x2F]) (0x2F :: 0x2A :: inside ++ [0x2A, 0x2F])
      tail none depth (by simp) rfl (by simp [hrest])
    simpa [hrest, Nat.add_assoc] using hgo

include hdone in
/-- **A line comment** is blanked, to the end of the text if it has no further line. -/
theorem overwriteFrom?_line (h : DoesRightBehind before done (0x2F :: 0x2F :: rest)) :
    overwriteFrom? (before ++ 0x2F :: 0x2F :: rest) (done ++ 0x2F :: 0x2F :: rest) none 0
      before.length = some (done ++ maskFrom .code 0 (0x2F :: 0x2F :: rest)) := by
  have hnext : (done ++ 0x2F :: 0x2F :: rest)[before.length + 1]? = some 0x2F := by simp [← hdone]
  have hcode : maskFrom .code 0 (0x2F :: 0x2F :: rest) = maskFrom .line 0 (0x2F :: 0x2F :: rest) :=
    rfl
  rw [overwriteFrom?, if_pos (by simp), getElem?_place hdone]
  simp only [Option.bind_eq_bind, Option.bind_some, hnext, hcode, maskFrom_line_break]
  rw [if_neg (by decide), if_neg (by decide), if_neg (by decide), if_pos (by simp),
    if_neg (by decide), if_pos (by decide)]
  have hblank := blankLine?_append done (0x2F :: 0x2F :: rest)
  generalize (0x2F :: 0x2F :: rest : Bytes) = s at h hblank ⊢
  rw [List.length_append, ← hdone, hblank, Option.bind_some]
  have hs : s.takeWhile (· != 0x0A) ++ s.dropWhile (· != 0x0A) = s :=
    List.takeWhile_append_dropWhile
  generalize s.takeWhile (· != 0x0A) = text at hs ⊢
  -- the walk goes on behind the line feed that ends the comment, if there is one
  cases hd : s.dropWhile (· != 0x0A) with
  | nil =>
    rw [hd] at hs
    refine (overwriteFrom?_end ?_ _ _ _).trans (by simp [maskFrom])
    simp [← hs, ← hdone]
  | cons c tail =>
    rw [hd] at hs
    have hgo := h (text ++ [c]) (text.map blank ++ [c]) tail none 0 (by simp) (by simp)
      (by simp [← hs])
    simpa [hdone, Nat.add_assoc] using hgo

include hdone in
/-- **In code** every byte but the slash of a comment is passed one by one. -/
theorem overwriteFrom?_code (h : DoesRightBehind before done (b :: rest)) (depth : Nat) :
    overwriteFrom? (before ++ b :: rest) (done ++ b :: rest) none depth before.length =
      some (done ++ maskFrom .code depth (b :: rest)) := by
  by_cases hblock : b = 0x2F ∧ rest.head? = some 0x2A
  · obtain ⟨rfl, hhead⟩ := hblock
    obtain ⟨rest, rfl⟩ := List.head?_eq_some_iff.1 hhead
    exact overwriteFrom?_block hdone h depth
  · by_cases hline : b = 0x2F ∧ rest.head? = some 0x2F ∧ depth = 0
    · obtain ⟨rfl, hhead, rfl⟩ := hline
      obtain ⟨rest, rfl⟩ := List.head?_eq_some_iff.1 hhead
      exact overwriteFrom?_line hdone h
    · rw [overwriteFrom?, if_pos (by simp), getElem?_place hdone, maskFrom_cons]
      simp only [Option.bind_eq_bind, Option.bind_some]
      by_cases hquote : b = 0x22 ∨ b = 0x27
      · simp [step, hquote, h.one]
      · by_cases hslash : b = 0x2F
        · -- a slash that opens nothing, with a byte behind it or at the end of the text
          subst hslash
          cases rest with
          | nil => simp [step, h.one]
          | cons c rest =>
            have hnext : (done ++ 0x2F :: c :: rest)[before.length + 1]? = some c := by
              simp [← hdone]
            have hstar : c ≠ 0x2A := by simpa using hblock
            have hcomment : ¬(c = 0x2F ∧ depth = 0) := by simpa using hline
            simp [step, hnext, hstar, hcomment, h.one]
        · by_cases hopen : b = 0x28
          · simp [step, hopen, hopen ▸ h.one]
          · by_cases hclose : b = 0x29
            · simp [step, hclose, hclose ▸ h.one]
            · simp [step, hquote, hopen, hclose, hslash, h.one]

end

/-- **The walk reads and writes inside of the text**, and leaves behind it what the regions say. -/
theorem overwriteFrom?_append (before done rest : Bytes) (quote : Option UInt8) (depth : Nat)
    (hdone : done.length = before.length) :
    overwriteFrom? (before ++ rest) (done ++ rest) quote depth before.length =
      some (done ++ maskFrom (.ofQuote quote) depth rest) := by
  -- the walk jumps, so it has to do right from any later place on
  induction hn : rest.length using Nat.strongRecOn generalizing before done rest quote depth with
  | _ n ih =>
    have hlater : DoesRightBehind before done rest := by
      intro pre pre' rest' quote' depth' hne hlen hrest
      have hpos := List.length_pos_iff.2 hne
      have hgo := ih rest'.length (by rw [← hn, hrest, List.length_append]; omega) (before ++ pre)
        (done ++ pre') rest' quote' depth' (by simp [hdone, hlen]) rfl
      simpa [hrest, List.append_assoc] using hgo
    cases rest with
    | nil => exact overwriteFrom?_end (by simp) _ _ _
    | cons b rest =>
      cases quote with
      | none => exact overwriteFrom?_code hdone hlater depth
      | some mark => exact overwriteFrom?_quoted hdone hlater mark depth

/-- **Blanking in place** never leaves the text, and it blanks what is to be blanked. -/
theorem overwrite?_eq (s : Bytes) : overwrite? s = some (mask s) :=
  overwriteFrom?_append [] [] s none 0 rfl

/-! ## The layout -/

theorem getElem?_kept {s t : Bytes} (h : List.Forall₂ Kept s t) (i : Nat) :
    s[i]? = none ∧ t[i]? = none ∨ ∃ a b, s[i]? = some a ∧ t[i]? = some b ∧ Kept a b := by
  induction h generalizing i with
  | nil => exact .inl ⟨rfl, rfl⟩
  | @cons a b s t hab _ ih =>
    cases i with
    | zero => exact .inr ⟨a, b, rfl, rfl, hab⟩
    | succ i => exact ih i

/-- **Blanking line comments keeps the layout.** The length stays. A byte that changes becomes a
space and was no line break, so every line break stays in its place and every line keeps its length.
Blanking again changes nothing. In place, too, it reads and writes inside of the text only, whatever
the text ends in: a backslash in a string, an open block comment or a slash. -/
theorem mask_layout (s : Bytes) :
    (mask s).length = s.length ∧
      (∀ (i : Nat) (a b : UInt8), s[i]? = some a → (mask s)[i]? = some b → b ≠ a →
        b = 0x20 ∧ a ≠ 0x0A ∧ a ≠ 0x0D) ∧
      (∀ (i : Nat) (c : UInt8), c = 0x0A ∨ c = 0x0D → ((mask s)[i]? = some c ↔ s[i]? = some c)) ∧
      ((mask s).splitOn 0x0A).map List.length = (s.splitOn 0x0A).map List.length ∧
      mask (mask s) = mask s ∧
      overwrite? s = some (mask s) := by
  have hkept : List.Forall₂ Kept s (mask s) := maskFrom_kept s .code 0
  refine ⟨hkept.length_eq.symm, ?_, ?_, ?_, maskFrom_again s .code 0, overwrite?_eq s⟩
  · intro i a b ha hb hne
    obtain ⟨hnone, -⟩ | ⟨a', b', ha', hb', hab⟩ := getElem?_kept hkept i
    · rw [ha] at hnone
      cases hnone
    · cases ha.symm.trans ha'
      cases hb.symm.trans hb'
      exact hab.resolve_left hne
  · intro i c hc
    obtain ⟨ha, hb⟩ | ⟨a, b, ha, hb, hab⟩ := getElem?_kept hkept i
    · simp [ha, hb]
    · rw [ha, hb, Option.some.injEq, Option.some.injEq]
      exact (hab.eq_iff hc).symm
  · have hlines := splitOn_kept hkept
    generalize s.splitOn 0x0A = lines at hlines ⊢
    generalize (mask s).splitOn 0x0A = lines' at hlines ⊢
    induction hlines with
    | nil => rfl
    | cons hline _ ih => rw [List.map_cons, List.map_cons, hline.length_eq, ih]

/-- A comment before a line end of two bytes, and a string that ends in a backslash. -/
def commentThenBackslash : Bytes := "a//b\r\n'\\"

/-- The first slash is blanked, and the line end stays. -/
theorem mask_layout_commentThenBackslash :
    commentThenBackslash[1]? = some 0x2F ∧ (mask commentThenBackslash)[1]? = some 0x20 ∧
      (0x2F : UInt8) ≠ 0x0A ∧ (mask commentThenBackslash)[4]? = some 0x0D ∧
      overwrite? commentThenBackslash = some (mask commentThenBackslash) := by
  obtain ⟨-, hspace, hbreak, -, -, hwalk⟩ := mask_layout commentThenBackslash
  exact ⟨rfl, rfl, (hspace 1 0x2F 0x20 rfl rfl (by decide)).2.1,
    (hbreak 4 0x0D (.inr rfl)).2 rfl, hwalk⟩

end VarLint.Stylesheet.LineComment
