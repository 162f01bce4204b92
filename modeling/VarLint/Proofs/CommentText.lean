import VarLint.Proofs.StatementGrammar

/-!
# The text of a line comment has no say

Two contents that differ only in the text of a line comment have the same declarations, at the same
places and with the same values.

* `maskFrom_append`: what stands before a byte has its say about the rest through the region and the
  depth it leads to, and of the rest it has seen one byte.
* `step_line_of_blanked`: a byte is blanked only in a line comment.
* `maskFrom_line`: there, up to the end of the line, nothing is kept of a byte but whether it is a
  carriage return. Quotes, backslashes, parentheses and stars lead nowhere.
* `declarations_of_code_eq`: contents that are blanked alike differ in the lines they show at most.
* `declarations_comment_text`: so **comments cannot influence what is found**.
-/

namespace VarLint.Stylesheet

namespace LineComment

/-! ## What the blanking knows of the text before -/

theorem maskFrom_cons (region : Region) (depth : Nat) (b : UInt8) (s : Bytes) :
    maskFrom region depth (b :: s) = (step region depth b s.head?).1 ::
      maskFrom (step region depth b s.head?).2.1 (step region depth b s.head?).2.2 s :=
  rfl

/-- **The state behind a text.** Its bytes become the same whatever follows, as long as the next
byte is the same, and so do the region and the depth in which the blanking goes on. -/
theorem maskFrom_append (next : Option UInt8) : ∀ (before : Bytes) (region : Region) (depth : Nat),
    ∃ out region' depth', out.length = before.length ∧
      ∀ rest : Bytes, rest.head? = next →
        maskFrom region depth (before ++ rest) = out ++ maskFrom region' depth' rest
  | [], region, depth => ⟨[], region, depth, rfl, fun _ _ => rfl⟩
  | b :: s, region, depth => by
    -- the byte behind `b` is in `s`, or it is the next one
    obtain ⟨out, region', depth', hlen, hout⟩ := maskFrom_append next s
      (step region depth b (s.head?.or next)).2.1 (step region depth b (s.head?.or next)).2.2
    refine ⟨(step region depth b (s.head?.or next)).1 :: out, region', depth', by simp [hlen], ?_⟩
    intro rest hrest
    rw [List.cons_append, maskFrom_cons, List.head?_append, hrest, hout rest hrest,
      List.cons_append]

/-! ## Inside of a comment -/

/-- **A byte is blanked only in a line comment.** -/
theorem step_line_of_blanked {region : Region} {depth : Nat} {b : UInt8} {next : Option UInt8}
    (h : (step region depth b next).1 ≠ b) : (step region depth b next).2.1 = .line := by
  cases region with
  | code =>
    simp only [step] at h ⊢
    repeat' split at h
    all_goals first
      | exact absurd rfl h
      | simp_all
  | line =>
    simp only [step] at h ⊢
    split at h
    · exact absurd rfl h
    · rename_i hn
      simp [hn]
  | quoted mark =>
    simp only [step] at h
    repeat' split at h
    all_goals exact absurd rfl h
  | block =>
    simp only [step] at h
    split at h <;> exact absurd rfl h
  | escaped mark => exact absurd rfl h
  | blockStart => exact absurd rfl h
  | blockEnd => exact absurd rfl h

/-- What becomes of a byte of a comment. -/
def blank (b : UInt8) : UInt8 := if b == 0x0D then b else 0x20

/-- **A comment is blanked** byte by byte, up to the end of its line. -/
theorem maskFrom_line (depth : Nat) (rest : Bytes) : ∀ {text : Bytes}, 0x0A ∉ text →
    maskFrom .line depth (text ++ rest) = text.map blank ++ maskFrom .line depth rest
  | [], _ => rfl
  | b :: text, h => by
    obtain ⟨hb, htext⟩ := not_or.1 (fun hm => h (List.mem_cons.2 hm))
    have hstep : step .line depth b (text ++ rest).head? = (blank b, .line, depth) := by
      simp [step, blank, Ne.symm hb]
    rw [List.cons_append, maskFrom_cons, hstep, maskFrom_line depth rest htext]
    rfl

/-- Texts with carriage returns at the same places are blanked alike. -/
theorem map_blank_eq {text text' : Bytes} (hlen : text.length = text'.length)
    (hreturn : ∀ i : Nat, text[i]? = some 0x0D ↔ text'[i]? = some 0x0D) :
    text.map blank = text'.map blank := by
  refine List.ext_getElem (by simpa using hlen) fun i hi hi' => ?_
  have hiff := hreturn i
  rw [List.length_map] at hi hi'
  rw [List.getElem?_eq_getElem hi, List.getElem?_eq_getElem hi', Option.some.injEq,
    Option.some.injEq] at hiff
  rw [List.getElem_map, List.getElem_map]
  unfold blank
  by_cases hr : text[i] = 0x0D
  · simp [hr, hiff.1 hr]
  · have hr' : text'[i] ≠ 0x0D := fun h => hr (hiff.2 h)
    simp [hr, hr']

/-- **The text of a comment is gone** when line comments are blanked. -/
theorem mask_comment_eq {before text text' rest : Bytes}
    (hblank : (mask (before ++ 0x2F :: 0x2F :: text ++ rest))[before.length]? = some 0x20)
    (htext : 0x0A ∉ text) (htext' : 0x0A ∉ text') (hlen : text.length = text'.length)
    (hreturn : ∀ i : Nat, text[i]? = some 0x0D ↔ text'[i]? = some 0x0D) :
    mask (before ++ 0x2F :: 0x2F :: text ++ rest) =
      mask (before ++ 0x2F :: 0x2F :: text' ++ rest) := by
  obtain ⟨out, region, depth, hout, happ⟩ := maskFrom_append (some 0x2F) before .code 0
  have hsplit : ∀ t : Bytes, mask (before ++ 0x2F :: 0x2F :: t ++ rest) =
      out ++ (step region depth 0x2F (some 0x2F)).1 ::
        maskFrom (step region depth 0x2F (some 0x2F)).2.1 (step region depth 0x2F (some 0x2F)).2.2
          (0x2F :: t ++ rest) := by
    intro t
    rw [mask, List.append_assoc, happ _ rfl, List.cons_append, maskFrom_cons]
    rfl
  -- the first slash is blanked, so the comment has begun
  have hline : (step region depth 0x2F (some 0x2F)).2.1 = .line := by
    apply step_line_of_blanked
    rw [hsplit, ← hout, List.getElem?_append_right (Nat.le_refl _), Nat.sub_self] at hblank
    rw [Option.some.inj hblank]
    decide
  have hslash : ∀ t : Bytes, 0x0A ∉ t → 0x0A ∉ (0x2F :: t : Bytes) := by
    intro t ht
    simp [ht]
  rw [hsplit, hsplit, hline, maskFrom_line _ _ (hslash _ htext),
    maskFrom_line _ _ (hslash _ htext'), List.map_cons, List.map_cons, map_blank_eq hlen hreturn]

end LineComment

/-! ## Declarations -/

/-- A declaration without the line that shows it. -/
def withoutLine (d : Declaration) : Declaration := { d with lineText := [] }

/-- **Contents with the same code** have the same declarations, apart from the lines that show
them. -/
theorem declarations_of_code_eq {filename content content' : Bytes}
    (h : codeOf filename content = codeOf filename content') :
    (declarations filename content).map withoutLine =
      (declarations filename content').map withoutLine := by
  rw [declarations_eq, declarations_eq, h, List.map_map, List.map_map]
  rfl

/-- **The text of a line comment has no say.** If a comment starts behind `before`, then another
text of the same length in its place, with carriage returns at the same places, leaves every
declaration as it is, apart from the line that shows it. Whatever follows on the line or behind it
stays. -/
theorem declarations_comment_text (filename before text text' rest : Bytes)
    (hfile : hasLineComments filename = true)
    (hblank : (LineComment.mask (before ++ 0x2F :: 0x2F :: text ++ rest))[before.length]? =
      some 0x20)
    (htext : 0x0A ∉ text) (htext' : 0x0A ∉ text') (hlen : text.length = text'.length)
    (hreturn : ∀ i : Nat, text[i]? = some 0x0D ↔ text'[i]? = some 0x0D) :
    (declarations filename (before ++ 0x2F :: 0x2F :: text ++ rest)).map withoutLine =
      (declarations filename (before ++ 0x2F :: 0x2F :: text' ++ rest)).map withoutLine := by
  refine declarations_of_code_eq ?_
  unfold codeOf
  rw [if_pos hfile, if_pos hfile]
  exact LineComment.mask_comment_eq hblank htext htext' hlen hreturn

/-- A comment that would open a string and a block comment, before a line end of two bytes. -/
def openingText : Bytes := " it's /* ( \r"

/-- A comment that would declare something and end a block. -/
def closingText : Bytes := "\x7d a:b; */\"\\\r"

/-- The declaration behind the comment is found either way, at the same place. -/
theorem declarations_comment_text_closing :
    hasLineComments "a.scss" = true ∧ openingText ≠ closingText ∧
      (declarations "a.scss" ("p\x7b" ++ 0x2F :: 0x2F :: openingText ++
        Bytes.ofString "\n color: red\x7d")).length = 1 ∧
      (declarations "a.scss" ("p\x7b" ++ 0x2F :: 0x2F :: openingText ++
        Bytes.ofString "\n color: red\x7d")).map withoutLine =
      (declarations "a.scss" ("p\x7b" ++ 0x2F :: 0x2F :: closingText ++
        Bytes.ofString "\n color: red\x7d")).map withoutLine := by
  refine ⟨by decide +kernel, by decide +kernel, by decide +kernel, ?_⟩
  refine declarations_comment_text "a.scss" "p\x7b" openingText closingText "\n color: red\x7d"
    (by decide +kernel) (by decide +kernel) (by decide +kernel) (by decide +kernel)
    (by decide +kernel) fun i => ?_
  -- the one carriage return of each is the last byte
  by_cases hi : i < 12
  · revert i
    decide +kernel
  · have hlen : openingText.length = 12 ∧ closingText.length = 12 := by decide +kernel
    rw [List.getElem?_eq_none (by omega), List.getElem?_eq_none (by omega)]

end VarLint.Stylesheet
