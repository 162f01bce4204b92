import Mathlib.Data.List.TakeWhile
import VarLint.Proofs.CommentText
import VarLint.Proofs.Leftover
import VarLint.Proofs.ReportAgreement
import VarLint.Proofs.TokenLocality

/-!
# Where the caret points

Columns count bytes of the text with its comments blanked, and the caret counts characters of the
line as it was. The two agree because a property never starts in the middle of a character:

* `mem_bodies_name`: a declared name stands at the start of the stream or behind a token that opens
  statements, and such a token ends in an ASCII byte (`endsAscii_of_opening`).
* `space_behind_blanked`: behind a byte that was blanked stands a space. So the byte before a name
  is the same in the content, and a character starts behind it (`boundary_of_name`).
* `first_of_name`: that character is the first one of the name, blanking leaves it whole.
* `exists_placedAt`: so every declaration is read in a line of the content and cuts no character
  there.
* `caret_points_at_property`: **the caret stands below the first character of the property.** For
  any line and any column it is tabs and spaces and one mark.
-/

namespace VarLint

/-! ## Boundaries between characters -/

namespace Rune

theorem continuation?_ascii {b : UInt8} (hb : b < 0x80) : continuation? b = none := by
  rw [Option.eq_none_iff_forall_ne_some]
  intro x hx
  rw [continuation?_eq_some_iff] at hx
  simp only [UInt8.lt_iff_toNat_lt, UInt8.reduceToNat] at hb
  omega

theorem not_ascii_of_sequence? {lead x : UInt8} {tail : Bytes} {c : Char} {n : Nat}
    (h : sequence? lead tail = some (c, n)) (hx : x ∈ tail) : ¬x < 0x80 := by
  intro hlt
  rw [sequence?_of_mem hx (continuation?_ascii hlt)] at h
  cases h

theorem continuation?_of_first {rest : Bytes} {b : UInt8} (h : first b rest ≠ malformed b) :
    continuation? b = none := by
  rw [Option.eq_none_iff_forall_ne_some]
  intro x hx
  rw [continuation?_eq_some_iff] at hx
  have hlow : ¬b < 0x80 := by
    simp only [UInt8.lt_iff_toNat_lt, UInt8.reduceToNat]
    omega
  have hhigh : b < 0xC2 := by
    simp only [UInt8.lt_iff_toNat_lt, UInt8.reduceToNat]
    omega
  exact h (by simp [first, hlow, hhigh])

end Rune

namespace Bytes

theorem runes_append_ascii (u : Bytes) {b : UInt8} (hb : b < 0x80) (t : Bytes) :
    runes (u ++ b :: t) = runes u ++ ⟨Char.ofNat b.toNat, [b]⟩ :: runes t := by
  rw [runes_append u (by simpa using Rune.continuation?_ascii hb), runes_cons, Rune.first_ascii hb]
  rfl

theorem runes_length_le (s : Bytes) : s.runes.length ≤ s.length := by
  induction hn : s.length using Nat.strongRecOn generalizing s with
  | _ n ih =>
    cases s with
    | nil => exact Nat.zero_le _
    | cons b s =>
      obtain ⟨tail, rest, rfl, -, hrunes⟩ := exists_runes_cons b s
      have := ih rest.length (by simp at hn; omega) rest rfl
      rw [hrunes]
      simp only [List.length_cons, List.length_append] at hn ⊢
      omega

theorem runeCount_ascii {s : Bytes} (h : ∀ b ∈ s, b < 0x80) : s.runeCount = s.length := by
  induction s with
  | nil => rfl
  | cons b s ih =>
    have hrunes := runes_append_ascii [] (h b (by simp)) s
    rw [runeCount] at ih ⊢
    rw [List.nil_append] at hrunes
    rw [hrunes]
    simp [ih fun c hc => h c (List.mem_cons_of_mem _ hc)]

/-- A text is empty or ends in an ASCII byte: what follows it starts with a character. -/
def EndsAscii (u : Bytes) : Prop := ∀ c ∈ u.getLast?, c < 0x80

/-- **A character starts behind an ASCII byte** of a well-formed text. -/
theorem first_of_endsAscii {u rest : Bytes} {b : UInt8} (h : (u ++ b :: rest).isWellFormed = true)
    (hu : EndsAscii u) : Rune.first b rest ≠ Rune.malformed b := by
  have hmem : Rune.first b rest ∈ (u ++ b :: rest).runes := by
    rcases List.eq_nil_or_concat u with rfl | ⟨v, c, rfl⟩
    · rw [List.nil_append, runes_cons]
      exact List.mem_cons_self
    · have hc : c < 0x80 := hu c (by simp)
      rw [List.concat_eq_append, List.append_assoc, List.singleton_append,
        runes_append_ascii v hc, runes_cons]
      simp
  intro hmalformed
  have hwell := List.all_eq_true.1 h _ hmem
  rw [hmalformed] at hwell
  simp [Rune.isMalformed, Rune.malformed] at hwell

end Bytes

namespace Stylesheet

/-! ## Tokens before names -/

/-- A value goes on at a token that opens no statement. -/
theorem continues_of_not_opening {t : Token} (h : isOpening t.kind = false) (body : Body) :
    ∃ body', body.step t = .continues body' := by
  unfold Body.step
  cases hk : t.kind <;> rw [hk] at h <;> first | exact ⟨_, rfl⟩ | cases h

/-- A step leads to the start of a statement only behind a token that opens one. -/
theorem isOpening_of_step {phase : Phase} {p : Position} {t : Token}
    (h : (phase.step p t).1 = .start) : isOpening t.kind = true := by
  have hafter : phaseAfter t.kind = .start → isOpening t.kind = true := by
    unfold phaseAfter endsStatement
    cases t.kind <;> simp [isOpening]
  have hfiller : (t.kind == .whitespace || t.kind == .comment) = true →
      isOpening t.kind = true := by
    cases t.kind <;> simp [isOpening]
  cases phase with
  | value name body =>
    by_contra hk
    obtain ⟨body', hbody⟩ := continues_of_not_opening (Bool.eq_false_iff.2 hk) body
    simp [Phase.step, hbody] at h
  | named name =>
    simp only [Phase.step] at h
    split at h
    · exact hfiller ‹_›
    · split at h
      · cases h
      · exact hafter h
  | start =>
    simp only [Phase.step] at h
    split at h
    · exact hfiller ‹_›
    · split at h
      · cases h
      · exact hafter h
  | rest =>
    simp only [Phase.step] at h
    split at h
    · cases h
    · exact hafter h

theorem pending_of_recorded {phase : Phase} {p : Position} {t : Token} {n : Name}
    (h : n ∈ (phase.step p t).2.toList.map Prod.fst) : n ∈ phase.pending := by
  cases phase with
  | value name body =>
    simp only [Phase.step] at h
    cases hb : body.step t <;> simp_all [Phase.pending]
  | _ =>
    simp only [Phase.step] at h
    repeat' split at h
    all_goals simp at h

/-- The machine waits with a name it waited with, or takes one at the start of a statement. -/
theorem pending_of_step {phase : Phase} {p : Position} {t : Token} {n : Name}
    (h : n ∈ (phase.step p t).1.pending) :
    n ∈ phase.pending ∨ phase = .start ∧ t.isName = true ∧ n = ⟨t.text, p⟩ := by
  have hafter : (phaseAfter t.kind).pending = [] := by
    unfold phaseAfter
    split <;> rfl
  cases phase with
  | value name body =>
    simp only [Phase.step] at h
    cases hb : body.step t <;> simp_all [Phase.pending]
  | named name =>
    simp only [Phase.step] at h
    repeat' split at h
    all_goals simp_all [Phase.pending]
  | start =>
    simp only [Phase.step] at h
    split at h
    · simp [Phase.pending] at h
    · split at h
      · rename_i hname
        exact .inr ⟨rfl, hname, by simpa [Phase.pending] using h⟩
      · simp [hafter] at h
  | rest =>
    simp only [Phase.step] at h
    repeat' split at h
    all_goals simp_all [Phase.pending]

/-- **A declared name starts a statement**: it is the first token, of a machine that is at the start
of one, or it stands behind a token that opens one. Otherwise it is the name that the machine waits
with. -/
theorem mem_bodies_name {n : Name} : ∀ (ts : List Token) (phase : Phase) (p : Position),
    n ∈ (bodies phase p ts).map Prod.fst → n ∈ phase.pending ∨
      ∃ before t after, ts = before ++ t :: after ∧ t.isName = true ∧
        n = ⟨t.text, p.advance (textOf before)⟩ ∧ (before = [] → phase = .start) ∧
        ∀ u ∈ before.getLast?, isOpening u.kind = true
  | [], phase, p, h => by
    cases phase with
    | value name body => exact .inl (by simpa [bodies, Phase.pending] using h)
    | _ => simp [bodies] at h
  | t :: ts, phase, p, h => by
    rw [bodies_cons, List.map_append, List.mem_append] at h
    rcases h with h | h
    · -- a step records only the name it waited with
      exact .inl (pending_of_recorded h)
    · rcases mem_bodies_name ts _ _ h with hwaiting | ⟨before, u, after, rfl, hu, rfl,
        hfirst, hlast⟩
      · rcases pending_of_step hwaiting with hp | ⟨rfl, ht, rfl⟩
        · exact .inl hp
        · exact .inr ⟨[], t, ts, rfl, ht, rfl, fun _ => rfl, by simp⟩
      · refine .inr ⟨t :: before, u, after, rfl, hu, by simp, by simp, ?_⟩
        cases before with
        | nil => simpa using isOpening_of_step (hfirst rfl)
        | cons v before => simpa [List.getLast?_cons_cons] using hlast

/-! ## The bytes before names -/

theorem ascii_of_isSpace {b : UInt8} (h : isSpace b = true) : b < 0x80 := by
  simp only [isSpace, isNewline, Bool.or_eq_true, beq_iff_eq] at h
  rcases h with (rfl | rfl) | (rfl | rfl) | rfl <;> decide

theorem ascii_of_punctuation {b : UInt8} {k : TokenKind}
    (h : punctuation (Char.ofNat b.toNat) = some k) : b < 0x80 := by
  unfold punctuation at h
  split at h
  case h_10 => cases h
  all_goals
    rename_i hc
    rw [byte_of_char hc]
    decide

/-- A comment that does not run to the end of the text ends in a slash. -/
theorem getLast?_commentRun : ∀ {s : Bytes}, commentRun s < s.length →
    (s.take (commentRun s)).getLast? = some 0x2F
  | b :: s, h => by
    unfold commentRun at h ⊢
    split
    · rename_i hend
      obtain ⟨-, hslash⟩ := Bool.and_eq_true_iff.1 hend
      obtain ⟨t, rfl⟩ := List.head?_eq_some_iff.1 (eq_of_beq hslash)
      simp
    · rename_i hend
      rw [if_neg hend, List.length_cons] at h
      rw [Nat.add_comm, List.take_succ_cons, List.getLast?_cons, getLast?_commentRun (by omega)]
      rfl

/-- **A token that opens statements ends in an ASCII byte**, unless the text ends in a comment. -/
theorem endsAscii_of_opening {b : UInt8} {s : Bytes} (h : isOpening (tokenAt b s).1 = true)
    (hmore : (tokenAt b s).2 - 1 < s.length) :
    Bytes.EndsAscii (b :: s.take ((tokenAt b s).2 - 1)) := by
  intro c hc
  rcases tokenAt_opening h with ⟨hb, ht⟩ | ⟨rfl, hstar, ht⟩ | ⟨k, hk, ht⟩
  · have htake : s.take (1 + spaceRun s - 1) = s.takeWhile isSpace := by
      rw [Nat.add_sub_cancel_left]
      exact (List.prefix_iff_eq_take.1 (List.takeWhile_prefix isSpace)).symm
    rw [ht, htake] at hc
    rcases List.mem_cons.1 (List.mem_of_getLast? hc) with rfl | hc
    · exact ascii_of_isSpace hb
    · exact ascii_of_isSpace (List.mem_takeWhile_imp hc)
  · obtain ⟨t, rfl⟩ := List.head?_eq_some_iff.1 hstar
    rw [ht] at hmore hc
    simp only [List.drop_one, List.tail_cons, List.length_cons] at hmore hc
    rw [show 2 + commentRun t - 1 = commentRun t + 1 by omega, List.take_succ_cons,
      List.getLast?_cons, List.getLast?_cons, getLast?_commentRun (by omega)] at hc
    obtain rfl : 0x2F = c := by simpa using hc
    decide
  · rw [ht] at hc
    obtain rfl : b = c := by simpa using hc
    exact ascii_of_punctuation hk

/-- A token of a text, with what follows it. -/
theorem exists_of_tokensFrom : ∀ {s : Bytes} {skip : Nat} {init rest : List Token} {u : Token},
    tokensFrom skip s = init ++ u :: rest → ∃ b r,
      u = ⟨(tokenAt b r).1, b :: r.take ((tokenAt b r).2 - 1)⟩ ∧
      rest = tokensFrom ((tokenAt b r).2 - 1) r
  | [], _, init, rest, u, h => by simp [tokensFrom] at h
  | _ :: s, skip + 1, init, rest, u, h => exists_of_tokensFrom (s := s) h
  | b :: s, 0, init, rest, u, h => by
    rw [tokensFrom_cons] at h
    cases init with
    | nil =>
      obtain ⟨rfl, rfl⟩ := List.cons.inj h
      exact ⟨b, s, rfl, rfl⟩
    | cons v init => exact exists_of_tokensFrom (List.cons.inj h).2

/-- **What stands before a declared name** in the code is nothing, or ends in an ASCII byte. -/
theorem endsAscii_before {s : Bytes} {before after : List Token} {t : Token}
    (hts : tokens s = before ++ t :: after)
    (hlast : ∀ u ∈ before.getLast?, isOpening u.kind = true) :
    Bytes.EndsAscii (textOf before) := by
  rcases List.eq_nil_or_concat before with rfl | ⟨init, u, rfl⟩
  · intro c hc
    simp at hc
  · have hopening : isOpening u.kind = true := hlast u (by simp)
    rw [List.concat_eq_append, List.append_assoc] at hts
    obtain ⟨b, r, rfl, hrest⟩ := exists_of_tokensFrom hts
    have hmore : (tokenAt b r).2 - 1 < r.length := by
      by_contra hle
      rw [tokensFrom_eq_nil.2 (Nat.le_of_not_lt hle)] at hrest
      cases hrest
    have htext : textOf (init.concat ⟨(tokenAt b r).1, b :: r.take ((tokenAt b r).2 - 1)⟩) =
        textOf init ++ b :: r.take ((tokenAt b r).2 - 1) := by simp
    intro c hc
    rw [htext, List.getLast?_append_of_ne_nil _ (by simp)] at hc
    exact endsAscii_of_opening hopening hmore c hc

/-- **A declared name in the code**: the bytes before it end in ASCII, and it is the token that is
cut off at its place. -/
theorem exists_declared {filename content : Bytes} {n : Name}
    (h : n ∈ (bodies .start .start (tokens (codeOf filename content))).map Prod.fst) :
    ∃ u b r, codeOf filename content = u ++ b :: r ∧ Bytes.EndsAscii u ∧ isSpace b = false ∧
      ((tokenAt b r).1 = .ident ∨ (tokenAt b r).1 = .customName) ∧
      n = ⟨b :: r.take ((tokenAt b r).2 - 1), Position.start.advance u⟩ := by
  rcases mem_bodies_name _ _ _ h with hp | ⟨front, t, back, hts, ht, rfl, -, hlast⟩
  · simp [Phase.pending] at hp
  · have hu := endsAscii_before hts hlast
    obtain ⟨b, r, rfl, hback⟩ := exists_of_tokensFrom hts
    have hcode : codeOf filename content = textOf front ++ b :: r := by
      rw [← textOf_tokens (codeOf filename content), hts, hback]
      simp [textOf_tokensFrom]
    have hb : isSpace b = false := by
      obtain ⟨b', rest, htext, hspace⟩ := nonspace_of_mem_tokens (s := codeOf filename content)
        (by rw [hts]; exact List.mem_append_right _ List.mem_cons_self) (ne_whitespace_of_isName ht)
      exact (List.cons.inj htext).1 ▸ hspace
    exact ⟨textOf front, b, r, hcode, hu, hb, by simpa [Token.isName] using ht, rfl⟩

/-! ## Blanked bytes before names -/

namespace LineComment

/-- In a line comment only spaces are written. -/
theorem isSpace_step_line (depth : Nat) (b : UInt8) (next : Option UInt8) :
    isSpace (step .line depth b next).1 = true := by
  simp only [step]
  split
  · rename_i hn
    rw [eq_of_beq hn]
    rfl
  · split
    · rename_i hr
      rw [eq_of_beq hr]
      rfl
    · rfl

/-- **A byte that leads into a line comment is written as a space.** -/
theorem isSpace_of_step_line {region : Region} {depth : Nat} {b : UInt8} {next : Option UInt8}
    (h : (step region depth b next).2.1 = .line) : isSpace (step region depth b next).1 = true := by
  cases region with
  | line => exact isSpace_step_line depth b next
  | code =>
    simp only [step] at h ⊢
    repeat' split at h
    all_goals simp_all [isSpace]
  | quoted mark =>
    simp only [step] at h
    repeat' split at h
    all_goals cases h
  | block =>
    simp only [step] at h
    split at h <;> cases h
  | _ => cases h

theorem step_ne_line {region : Region} {depth : Nat} {b : UInt8} {next : Option UInt8}
    (hb : isSpace b = false) (h : (step region depth b next).1 = b) :
    (step region depth b next).2.1 ≠ .line := by
  intro hline
  have hspace := isSpace_of_step_line hline
  rw [h, hb] at hspace
  cases hspace

/-- A byte that is no slash and not in a line comment is kept. -/
theorem step_of_no_slash {region : Region} (hr : region ≠ .line) {b : UInt8} (hb : b ≠ 0x2F)
    (depth : Nat) (next : Option UInt8) : (step region depth b next).1 = b := by
  cases region with
  | line => exact absurd rfl hr
  | code =>
    simp only [step]
    repeat' split
    all_goals simp_all
  | quoted mark =>
    simp only [step]
    repeat' split
    all_goals rfl
  | block =>
    simp only [step]
    split <;> rfl
  | _ => rfl

/-- A text without slashes and spaces that is not in a line comment is kept. -/
theorem maskFrom_of_no_slash (rest : Bytes) : ∀ {text : Bytes} {region : Region} (depth : Nat),
    region ≠ .line → (∀ b ∈ text, b ≠ 0x2F ∧ isSpace b = false) →
      ∃ rest', maskFrom region depth (text ++ rest) = text ++ rest'
  | [], _, _, _, _ => ⟨_, rfl⟩
  | b :: text, region, depth, hr, h => by
    obtain ⟨hslash, hspace⟩ := h b (by simp)
    have hkept := step_of_no_slash hr hslash depth (text ++ rest).head?
    obtain ⟨rest', hrest⟩ := maskFrom_of_no_slash rest
      (step region depth b (text ++ rest).head?).2.2
      (step_ne_line hspace hkept) fun c hc => h c (List.mem_cons_of_mem _ hc)
    exact ⟨rest', by rw [List.cons_append, maskFrom_cons, hkept, hrest]; rfl⟩

end LineComment

/-- The code behind a place, from the region that the blanking has reached there. -/
theorem exists_code_at {filename u' v' u v : Bytes} (hcode : codeOf filename (u' ++ v') = u ++ v)
    (hlen : u'.length = u.length) :
    v = v' ∧ u = u' ∨ ∃ region depth, v = LineComment.maskFrom region depth v' := by
  unfold codeOf at hcode
  split at hcode
  · obtain ⟨out, region, depth, hout, hmask⟩ := LineComment.maskFrom_append v'.head? u' .code 0
    rw [LineComment.mask, hmask v' rfl] at hcode
    exact .inr ⟨region, depth, (List.append_inj hcode (hout.trans hlen)).2.symm⟩
  · obtain ⟨rfl, rfl⟩ := List.append_inj hcode hlen
    exact .inl ⟨rfl, rfl⟩

/-- **Behind a blanked byte stands a space.** -/
theorem space_behind_blanked {filename u' u v' v : Bytes} {c' c b' b : UInt8}
    (hcode : codeOf filename (u' ++ c' :: b' :: v') = u ++ c :: b :: v)
    (hlen : u'.length = u.length) (hne : c ≠ c') : isSpace b = true := by
  rcases exists_code_at hcode hlen with ⟨h, -⟩ | ⟨region, depth, h⟩
  · exact absurd (List.cons.inj h).1 hne
  · rw [LineComment.maskFrom_cons] at h
    obtain ⟨hc, h⟩ := List.cons.inj h
    rw [LineComment.step_line_of_blanked (by rw [← hc]; exact hne), LineComment.maskFrom_cons] at h
    obtain ⟨rfl, -⟩ := List.cons.inj h
    exact LineComment.isSpace_step_line _ _ _

/-! ## The first character of a name -/

/-- **A name that stands behind an ASCII byte starts with a character** of a well-formed content. -/
theorem boundary_of_name {filename content u v : Bytes} {b : UInt8}
    (hwell : content.isWellFormed = true) (hcode : codeOf filename content = u ++ b :: v)
    (hu : Bytes.EndsAscii u) (hb : isSpace b = false) :
    ∃ u' v', content = u' ++ b :: v' ∧ u'.length = u.length ∧
      Position.start.advance u' = Position.start.advance u ∧
      Rune.first b v' ≠ Rune.malformed b := by
  have hkept := codeOf_kept filename content
  rw [hcode] at hkept
  have hfront := List.forall₂_take_append content u (b :: v) hkept
  have hback := List.forall₂_drop_append content u (b :: v) hkept
  obtain ⟨u', hu'⟩ : ∃ u', content.take u.length = u' := ⟨_, rfl⟩
  obtain ⟨w, hw⟩ : ∃ w, content.drop u.length = w := ⟨_, rfl⟩
  have hcontent : content = u' ++ w := by rw [← hu', ← hw, List.take_append_drop]
  rw [hu'] at hfront
  rw [hw] at hback
  obtain ⟨b', v', hbb, -, rfl⟩ := List.forall₂_cons_right_iff.1 hback
  obtain rfl : b = b' := hbb.resolve_right fun h => by
    rw [h.1] at hb
    cases hb
  refine ⟨u', v', hcontent, hfront.length_eq, advance_kept hfront _, ?_⟩
  refine Bytes.first_of_endsAscii (hcontent ▸ hwell) fun c' hc' => ?_
  -- the last byte before the name is that of the code: a blanked one would have a space behind it
  obtain ⟨front', rfl⟩ := List.getLast?_eq_some_iff.1 hc'
  obtain ⟨front, c, rfl⟩ : ∃ front c, u = front ++ [c] := by
    rcases List.eq_nil_or_concat u with rfl | ⟨front, c, rfl⟩
    · simp at hfront
    · exact ⟨front, c, List.concat_eq_append⟩
  have hlen : front'.length = front.length := by simpa using hfront.length_eq
  by_cases hne : c = c'
  · exact hne ▸ hu c (by simp)
  · rw [hcontent, List.append_assoc, List.append_assoc] at hcode
    have hspace := space_behind_blanked hcode hlen hne
    rw [hb] at hspace
    cases hspace

theorem nameRun_of_names (rest : Bytes) : ∀ {text : Bytes}, (∀ b ∈ text, isName b = true) →
    text.length ≤ nameRun 0 (text ++ rest)
  | [], _ => Nat.zero_le _
  | b :: text, h => by
    have ih := nameRun_of_names rest fun c hc => h c (List.mem_cons_of_mem b hc)
    rw [List.cons_append, nameRun, if_pos (h b (by simp)), List.length_cons]
    omega

theorem identToken_of_isName {n : Nat} {s : Bytes}
    (h : (identToken n s).1 = .ident ∨ (identToken n s).1 = .customName) :
    (identToken n s).2 = n := by
  have haddress : ∀ rest, (address rest).1 ≠ .ident ∧ (address rest).1 ≠ .customName := by
    intro rest
    rw [address_eq, closedAddress, badAddress, badAddress]
    repeat' split
    all_goals exact ⟨TokenKind.noConfusion, TokenKind.noConfusion⟩
  unfold identToken at h ⊢
  split
  · rename_i c rest hdrop
    simp only [hdrop] at h
    split
    · rfl
    · rename_i hc
      rw [if_neg hc] at h
      split
      · rename_i hurl
        rw [if_pos hurl] at h
        rcases h with h | h
        · exact absurd h (haddress rest).1
        · exact absurd h (haddress rest).2
      · rename_i hurl
        rw [if_neg hurl] at h
        rcases h with h | h <;> cases h
  · rfl

theorem number?_beyond_ascii {b : UInt8} (hb : ¬b < 0x80) (s : Bytes) :
    number? (b :: s) = none := by
  have hne : ∀ c : UInt8, c < 0x80 → b ≠ c := by
    rintro c hc rfl
    exact hb hc
  have hdigit : isDigit b = false := by
    rw [isDigit, Bool.and_eq_false_iff]
    right
    rw [decide_eq_false_iff_not]
    intro hle
    exact hb (UInt8.lt_of_le_of_lt hle (by decide))
  simp [number?, digitRun, hne 0x2B (by decide), hne 0x2D (by decide), hne 0x2E (by decide), hdigit]

/-- A name that starts beyond ASCII goes on through its name bytes. -/
theorem tokenAt_beyond_ascii {b : UInt8} (hb : ¬b < 0x80) {s : Bytes}
    (h : (tokenAt b s).1 = .ident ∨ (tokenAt b s).1 = .customName) :
    (tokenAt b s).2 = 1 + nameRun 0 s := by
  have hchar : ∀ c : Char, UInt8.ofNat c.toNat < 0x80 → Char.ofNat b.toNat ≠ c := by
    intro c hc he
    exact hb (byte_of_char he ▸ hc)
  have hspace : isSpace b = false := Bool.eq_false_iff.2 fun hs => hb (ascii_of_isSpace hs)
  have hpunctuation : punctuation (Char.ofNat b.toNat) = none := by
    cases hp : punctuation (Char.ofNat b.toNat) with
    | none => rfl
    | some k => exact absurd (ascii_of_punctuation hp) hb
  have hfixed : Char.ofNat b.toNat ∉ fixedStarts := fun hm =>
    hchar _ (forall_mem_of_all (P := fun c => UInt8.ofNat c.toNat < 0x80) (by decide) _ hm) rfl
  have hruled : Char.ofNat b.toNat ∉ ruledStarts := fun hm =>
    hchar _ (forall_mem_of_all (P := fun c => UInt8.ofNat c.toNat < 0x80) (by decide) _ hm) rfl
  have hident : ident? (b :: s) = some (1 + nameRun 0 s) := by
    have hhyphen : b ≠ 0x2D := by
      rintro rfl
      exact hb (by decide)
    have hstart : isNameStart b = true := by
      rw [isNameStart, Bool.or_eq_true]
      exact .inr (by simpa using UInt8.not_lt.1 hb)
    rw [ident?_plain (by simpa using hhyphen), plainIdent?, if_pos hstart]
  have htoken : tokenAt b s = identToken (1 + nameRun 0 s) (b :: s) := by
    rw [tokenAt_other hspace hpunctuation hfixed hruled, numeric?, number?_beyond_ascii hb,
      identLike?_eq, hident]
    rfl
  rw [htoken] at h ⊢
  exact identToken_of_isName h

/-- Blanking leaves bytes beyond ASCII behind a byte that it has kept. -/
theorem exists_code_beyond_ascii {filename u' u tail rest r : Bytes} {b : UInt8}
    (hcode : codeOf filename (u' ++ b :: (tail ++ rest)) = u ++ b :: r)
    (hlen : u'.length = u.length) (hb : isSpace b = false) (htail : ∀ x ∈ tail, ¬x < 0x80) :
    ∃ rest', r = tail ++ rest' := by
  rcases exists_code_at hcode hlen with ⟨hr, -⟩ | ⟨region, depth, hr⟩
  · exact ⟨rest, (List.cons.inj hr).2⟩
  · rw [LineComment.maskFrom_cons] at hr
    obtain ⟨hkeep, hr⟩ := List.cons.inj hr
    have hplain : ∀ x ∈ tail, x ≠ 0x2F ∧ isSpace x = false := by
      intro x hx
      refine ⟨?_, Bool.eq_false_iff.2 fun hs => htail x hx (ascii_of_isSpace hs)⟩
      rintro rfl
      exact htail _ hx (by decide)
    obtain ⟨rest', hrest⟩ := LineComment.maskFrom_of_no_slash rest _
      (LineComment.step_ne_line hb hkeep.symm) hplain
    exact ⟨rest', hr.trans hrest⟩

/-- **A name starts with the character that the content has at its place.** -/
theorem first_of_name {filename content u' v' u r : Bytes} {b : UInt8}
    (hcontent : content = u' ++ b :: v') (hlen : u'.length = u.length)
    (hcode : codeOf filename content = u ++ b :: r) (hb : isSpace b = false)
    (hfirst : Rune.first b v' ≠ Rune.malformed b)
    (hname : (tokenAt b r).1 = .ident ∨ (tokenAt b r).1 = .customName) :
    Rune.first b (r.take ((tokenAt b r).2 - 1)) = Rune.first b v' := by
  by_cases hascii : b < 0x80
  · rw [Rune.first_ascii hascii, Rune.first_ascii hascii]
  · rcases Rune.first_cases b v' with ⟨h, -⟩ | ⟨tail, rest, c, n, rfl, hlead, htail, hseq, h⟩ | h
    · exact absurd h hascii
    · -- the other bytes of the character are beyond ASCII too, so they are kept and belong to the
      -- name
      have hbeyond : ∀ x ∈ tail, ¬x < 0x80 := fun _ => Rune.not_ascii_of_sequence? hseq
      obtain ⟨rest', rfl⟩ := exists_code_beyond_ascii (hcontent ▸ hcode) hlen hb hbeyond
      have hnames : ∀ x ∈ tail, isName x = true := by
        intro x hx
        simp [isName, isNameStart, UInt8.not_lt.1 (hbeyond x hx)]
      have hrun := nameRun_of_names rest' hnames
      rw [tokenAt_beyond_ascii hascii hname, Nat.add_sub_cancel_left, h, List.take_append,
        List.take_of_length_le hrun]
      exact Rune.first_sequence hlead htail hseq _
    · exact absurd h hfirst

/-! ## The line of a name -/

/-- The line of a byte that is no space goes on with that byte, up to the end of the line. -/
theorem line_of_nonspace {b : UInt8} (hb : isSpace b = false) (u v : Bytes) :
    ∃ full last q t,
      ((u ++ b :: v).splitOn 0x0A)[(Position.start.advance u).line - 1]? = some full ∧
      withoutReturn full = last ++ b :: q ∧ (Position.start.advance u).column = last.length + 1 ∧
      v = q ++ t ∧ ∀ c ∈ t.head?, isSpace c = true := by
  have hne : b ≠ 0x0A := by rintro rfl; cases hb
  have hnr : b ≠ 0x0D := by rintro rfl; cases hb
  obtain ⟨last, first, more, hfirst, hat, hcol⟩ := line_at_advance u (b :: v)
  obtain ⟨q, qs, hq⟩ := Bytes.exists_splitOn_cons 0x0A v
  rw [Bytes.splitOn_cons_of_ne hne hq] at hfirst
  obtain ⟨rfl, -⟩ := List.cons.inj hfirst
  obtain ⟨t, rfl, ht⟩ := Bytes.exists_of_splitOn hq
  have hspace : ∀ c ∈ t.head?, isSpace c = true := fun c hc => ht c hc ▸ rfl
  by_cases hreturn : (last ++ b :: q).getLast? = some 0x0D
  · -- the carriage return is not the byte itself
    rcases List.eq_nil_or_concat q with rfl | ⟨q, r, rfl⟩
    · simp [hnr] at hreturn
    · have hfull : last ++ b :: q.concat r = (last ++ b :: q) ++ [r] := by simp
      rw [hfull] at hat hreturn
      obtain rfl : r = 0x0D := Option.some.inj (List.getLast?_concat.symm.trans hreturn)
      refine ⟨_, last, q, 0x0D :: t, hat, ?_, hcol, by simp, by simp; rfl⟩
      rw [withoutReturn, if_pos (beq_iff_eq.2 hreturn), List.dropLast_concat]
  · exact ⟨_, last, q, t, hat, by rw [withoutReturn, if_neg (by simpa using hreturn)], hcol,
      rfl, hspace⟩

/-- A place in a file where a property is read. The line of the place is `before` and `after` it,
without the carriage return, and no character of the line is cut there. -/
structure PlacedAt (filename content : Bytes) (line column : Int) (property before after : Bytes) :
    Prop where
  line_eq : ∃ full, (content.splitOn 0x0A)[(line - 1).toNat]? = some full ∧
    withoutReturn full = before ++ after
  column_eq : column = before.length + 1
  property_read : property <+: textFrom (codeOf filename content) ⟨line.toNat, column.toNat⟩
  runes_eq : (before ++ after).runes = before.runes ++ after.runes
  first_eq : ∃ r, after.runes.head? = some r ∧ property.runes.head? = some r

/-- **Every declaration has its place** in a line of a well-formed content. -/
theorem exists_placedAt {filename content : Bytes} (hwell : content.isWellFormed = true)
    {d : Declaration} (hd : d ∈ declarations filename content) :
    ∃ before after,
      PlacedAt filename content d.position.line d.position.column d.property before after ∧
      d.lineText = before ++ after := by
  rw [declarations_eq] at hd
  obtain ⟨x, hx, rfl⟩ := List.mem_map.1 hd
  obtain ⟨u, b, r, hcode, hu, hb, hkind, hname⟩ := exists_declared (List.mem_map_of_mem hx)
  have hposition : x.1.position = Position.start.advance u := by rw [hname]
  have htext : x.1.text = b :: r.take ((tokenAt b r).2 - 1) := by rw [hname]
  obtain ⟨u', v', hcontent, hlen, hadvance, hfirst⟩ := boundary_of_name hwell hcode hu hb
  have hproperty := first_of_name hcontent hlen hcode hb hfirst hkind
  obtain ⟨full, last, q, rest, hfull, hline, hcol, rfl, hrest⟩ := line_of_nonspace hb u' v'
  rw [← hcontent, hadvance, ← hposition] at hfull
  rw [hadvance, ← hposition] at hcol
  -- the line ends at a byte that continues no character
  have hend : Rune.first b (q ++ rest) = Rune.first b q := Rune.first_append b q fun c hc =>
    Rune.continuation?_ascii (ascii_of_isSpace (hrest c hc))
  have hread : textFrom (codeOf filename content) x.1.position = b :: r := by
    rw [hcode, hposition, textFrom_advance]
  simp only [declarationOf]
  refine ⟨last, b :: q, ⟨⟨full, ?_, hline⟩, by rw [hcol]; rfl, ?_, ?_, Rune.first b q, ?_, ?_⟩, ?_⟩
  · rw [← hfull]
    congr 1
    omega
  · show x.1.text <+: textFrom (codeOf filename content) x.1.position
    rw [hread, htext]
    exact (List.prefix_cons_inj b).2 (List.take_prefix _ r)
  · exact Bytes.runes_append last (by simpa using Rune.continuation?_of_first hfirst)
  · rw [Bytes.runes_cons]
    rfl
  · rw [htext, Bytes.runes_cons, hproperty, hend]
    rfl
  · rw [hfull, Option.getD_some, hline]

end Stylesheet

/-! ## The caret -/

namespace Report

open Findings (ofSource)

/-- What stands in the padding of a caret below a rune. -/
def padOf (r : Rune) : UInt8 := if r.char == '\t' then 0x09 else 0x20

theorem padOf_cases (r : Rune) : padOf r = 0x09 ∨ padOf r = 0x20 := by
  unfold padOf
  split
  · exact .inl rfl
  · exact .inr rfl

theorem caret_eq (line : Bytes) {column : Int} (h : 0 < column) :
    caret line column = (Bytes.runes (line.take (column - 1).toNat)).map padOf ++ "^" := by
  rw [caret, if_neg (by omega), Bytes.chars, List.map_map]
  rfl

/-- **A caret is a row of tabs and spaces with one mark**, no longer than the line, whatever the
column. -/
theorem exists_caret (line : Bytes) (column : Int) :
    ∃ padding : Bytes, caret line column = padding ++ "^" ∧ (∀ b ∈ padding, b = 0x09 ∨ b = 0x20) ∧
      padding.length ≤ line.length := by
  by_cases h : 0 < column
  · refine ⟨_, caret_eq line h, ?_, ?_⟩
    · intro b hb
      obtain ⟨r, -, rfl⟩ := List.mem_map.1 hb
      exact padOf_cases r
    · rw [List.length_map]
      exact (Bytes.runes_length_le _).trans (List.length_take_le' _ _)
  · exact ⟨[], by rw [caret, if_pos (by omega)]; rfl, by simp, Nat.zero_le _⟩

/-- The caret behind a part of a line has one byte for each rune of that part. -/
theorem caret_append (before after : Bytes) :
    caret (before ++ after) (before.length + 1) = before.runes.map padOf ++ "^" := by
  rw [caret_eq _ (by omega)]
  simp

theorem runeCount_caret (before after : Bytes) :
    (caret (before ++ after) (before.length + 1)).runeCount = 1 + before.runeCount := by
  have hascii : ∀ b ∈ caret (before ++ after) (before.length + 1), b < 0x80 := by
    rw [caret_append]
    intro b hb
    rcases List.mem_append.1 hb with hb | hb
    · obtain ⟨r, -, rfl⟩ := List.mem_map.1 hb
      rcases padOf_cases r with h | h <;> rw [h] <;> decide
    · obtain rfl : b = 0x5E := List.mem_singleton.1 hb
      decide
  rw [Bytes.runeCount_ascii hascii, caret_append, List.length_append, List.length_map, Nat.add_comm]
  rfl

/-- **The caret points at the property.** An issue of a well-formed content shows one line, the line
of the content at its place, and below it the caret stands behind one tab or space for each
character that stands before the first character of the property. For any line and any column the
caret is tabs and spaces, no more than the line has bytes, and one mark. -/
theorem caret_points_at_property (rule : Rule) (o : CheckOptions) (filename content : Bytes) :
    (content.isWellFormed = true → ∀ i ∈ (ofSource rule o filename content).issues,
      ∃ before after, Stylesheet.PlacedAt filename content i.line i.column i.property before after ∧
        i.source = [before ++ after] ∧
        caret (before ++ after) i.column = before.runes.map padOf ++ "^" ∧
        (i.column - 1).toNat < (before ++ after).length ∧
        (caret (before ++ after) i.column).runeCount =
          1 + Bytes.runeCount ((before ++ after).take (i.column - 1).toNat)) ∧
    ∀ (line : Bytes) (column : Int), ∃ padding : Bytes, caret line column = padding ++ "^" ∧
      (∀ b ∈ padding, b = 0x09 ∨ b = 0x20) ∧ padding.length ≤ line.length := by
  refine ⟨?_, exists_caret⟩
  intro hwell i hi
  have hissues : (ofSource rule o filename content).issues =
      Findings.limit o (Findings.issuesOf rule o.effectiveSeverity
        (Stylesheet.declarations filename content)) := Findings.issues_eq rule o _
  rw [hissues] at hi
  obtain ⟨d, hd, rfl⟩ := List.mem_map.1 ((Findings.limit_sublist o _).subset hi)
  obtain ⟨before, after, hplaced, hline⟩ := Stylesheet.exists_placedAt hwell
    (List.mem_filter.1 hd).1
  have hne : after ≠ [] := by
    rintro rfl
    obtain ⟨r, hr, -⟩ := hplaced.first_eq
    cases hr
  have hcolumn : (d.position.column : Int) = before.length + 1 := hplaced.column_eq
  have htoNat : ((d.position.column : Int) - 1).toNat = before.length := by omega
  refine ⟨before, after, hplaced, ?_, ?_, ?_, ?_⟩
  · simp [Issue.of, hline, hne]
  · simp only [Issue.of]
    rw [hcolumn, caret_append]
  · simp only [Issue.of]
    rw [htoNat, List.length_append]
    exact Nat.lt_add_of_pos_right (List.length_pos_iff.2 hne)
  · simp only [Issue.of]
    rw [htoNat, hcolumn, runeCount_caret, List.take_left]

/-- An accented letter in a line comment, and one before the property, behind a tab. -/
def accented : Bytes := "a \x7b // é\r\n\t/* é */color: red \x7d\r\n"

/-- The two bytes of an accented letter take one space in front of the caret. -/
theorem caret_points_at_property_accented :
    accented.isWellFormed = true ∧ ∃ rule, Rule.ofLiterals "/color/" [] = .ok rule ∧
      ∃ i ∈ (ofSource rule {} "a.scss" accented).issues, i.line = 2 ∧ i.column = 10 ∧
        i.source.map (caret · i.column) = [Bytes.ofString "\t       ^"] ∧
        ∃ before after,
          Stylesheet.PlacedAt "a.scss" accented i.line i.column i.property before after ∧
          i.source = [before ++ after] ∧
          caret (before ++ after) i.column = before.runes.map padOf ++ "^" := by
  have hwell : accented.isWellFormed = true := by decide +kernel
  obtain ⟨rule, hrule, i, hi, hline, hcolumn, hcaret⟩ :
      ∃ rule, Rule.ofLiterals "/color/" [] = .ok rule ∧
        ∃ i ∈ (ofSource rule {} "a.scss" accented).issues, i.line = 2 ∧ i.column = 10 ∧
          i.source.map (caret · i.column) = [Bytes.ofString "\t       ^"] :=
    ⟨_, rfl, by decide +kernel⟩
  obtain ⟨hplaced, -⟩ := caret_points_at_property rule {} "a.scss" accented
  obtain ⟨before, after, hplace, hsource, hcaret', -⟩ := hplaced hwell i hi
  exact ⟨hwell, rule, hrule, i, hi, hline, hcolumn, hcaret, before, after, hplace, hsource, hcaret'⟩

end Report

end VarLint
