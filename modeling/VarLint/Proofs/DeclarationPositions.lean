import VarLint.Proofs.StatementGrammar

/-!
# Where declarations are

* `textOf_tokens`: the texts of the tokens, in a row, are the text that was cut.
* `nonspace_of_mem_tokens`: a token that is no white space starts with a byte that is none.
* `namesIn p ts`: the tokens that can name a property, each with its place. A step of the machine
  keeps the name it waits with or takes the name of its token (`step_pending`), so a whole run
  records names from this list, in its order and each at most once (`names_sublist`).
* `mem_namesIn`, `namesIn_before`: each of them is read at its place, and the places rise.
* `declarations_positions`: **the places of declarations are exact**, in the code and in the lines
  of the content.
-/

namespace VarLint.Stylesheet

/-! ## Tokens cover the text -/

theorem textOf_tokensFrom : ∀ (s : Bytes) (skip : Nat), textOf (tokensFrom skip s) = s.drop skip
  | [], skip => by simp [tokensFrom]
  | _ :: s, skip + 1 => by
    rw [tokensFrom, textOf_tokensFrom s skip]
    rfl
  | b :: s, 0 => by
    simp only [tokensFrom, textOf_cons]
    rw [textOf_tokensFrom s]
    simp

/-- **Nothing is lost**: the texts of the tokens, in a row, are the text. -/
theorem textOf_tokens (s : Bytes) : textOf (tokens s) = s := textOf_tokensFrom s 0

theorem tokenAt_whitespace {b : UInt8} (h : isSpace b = true) (s : Bytes) :
    (tokenAt b s).1 = .whitespace := by
  simp [tokenAt, h]

theorem nonspace_of_mem_tokensFrom {t : Token} (hk : t.kind ≠ .whitespace) :
    ∀ (s : Bytes) (skip : Nat), t ∈ tokensFrom skip s →
      ∃ b rest, t.text = b :: rest ∧ isSpace b = false
  | [], _, h => by simp [tokensFrom] at h
  | _ :: s, skip + 1, h => nonspace_of_mem_tokensFrom hk s skip h
  | b :: s, 0, h => by
    simp only [tokensFrom, List.mem_cons] at h
    rcases h with rfl | h
    · refine ⟨b, _, rfl, ?_⟩
      cases hb : isSpace b with
      | false => rfl
      | true => exact absurd (tokenAt_whitespace hb s) hk
    · exact nonspace_of_mem_tokensFrom hk s _ h

/-- A token that is no white space starts with a byte that is none. -/
theorem nonspace_of_mem_tokens {s : Bytes} {t : Token} (h : t ∈ tokens s)
    (hk : t.kind ≠ .whitespace) : ∃ b rest, t.text = b :: rest ∧ isSpace b = false :=
  nonspace_of_mem_tokensFrom hk s 0 h

theorem ne_whitespace_of_isName {t : Token} (h : t.isName = true) : t.kind ≠ .whitespace := by
  intro hk
  simp [Token.isName, hk] at h

/-! ## Names in a stream -/

/-- The name that a token stands for at a place, if it can name a property. -/
def nameOf (p : Position) (t : Token) : List Name := if t.isName then [⟨t.text, p⟩] else []

/-- The tokens of a stream that can name a property, each with its place. -/
def namesIn : Position → List Token → List Name
  | _, [] => []
  | p, t :: ts => nameOf p t ++ namesIn (p.advance t.text) ts

/-- The name that the machine waits with. -/
def Phase.pending : Phase → List Name
  | .named name => [name]
  | .value name _ => [name]
  | _ => []

/-- **One step** records the name it waited with, keeps it, or takes the one of its token. -/
theorem step_pending (phase : Phase) (p : Position) (t : Token) :
    ((phase.step p t).2.toList.map Prod.fst ++ (phase.step p t).1.pending).Sublist
      (phase.pending ++ nameOf p t) := by
  have hafter : (phaseAfter t.kind).pending = [] := by
    unfold phaseAfter
    split <;> rfl
  cases phase with
  | value name body =>
    simp only [Phase.step]
    cases body.step t <;> simp [Phase.pending]
  | named name =>
    simp only [Phase.step]
    split
    · simp [Phase.pending]
    · split
      · simp [Phase.pending]
      · simp [hafter]
  | start =>
    simp only [Phase.step]
    split
    · simp [Phase.pending]
    · split
      · rename_i hn
        simp [Phase.pending, nameOf, Token.isName, hn]
      · simp [hafter]
  | rest =>
    simp only [Phase.step]
    split
    · simp [Phase.pending]
    · simp [hafter]

/-- **A run** records names of the stream, in their order and each at most once. -/
theorem names_sublist :
    ∀ (ts : List Token) (phase : Phase) (p : Position),
      ((bodies phase p ts).map Prod.fst).Sublist (phase.pending ++ namesIn p ts)
  | [], phase, p => by cases phase <;> simp [bodies, Phase.pending]
  | t :: ts, phase, p => by
    rw [bodies_cons, List.map_append, namesIn, ← List.append_assoc]
    refine .trans (List.Sublist.append_left (names_sublist ts _ _) _) ?_
    rw [← List.append_assoc]
    exact (step_pending phase p t).append_right _

/-- A name of a stream is one of its tokens, at the place behind the tokens before it. -/
theorem mem_namesIn {n : Name} :
    ∀ {ts : List Token} {p : Position}, n ∈ namesIn p ts →
      ∃ before t after, ts = before ++ t :: after ∧ t.isName = true ∧
        n = ⟨t.text, p.advance (textOf before)⟩
  | t :: ts, p, h => by
    rw [namesIn, List.mem_append] at h
    rcases h with h | h
    · unfold nameOf at h
      split at h
      · rename_i ht
        exact ⟨[], t, ts, rfl, ht, by simpa using h⟩
      · simp at h
    · obtain ⟨before, u, after, rfl, hu, rfl⟩ := mem_namesIn h
      exact ⟨t :: before, u, after, rfl, hu, by simp⟩

theorem namesIn_from {n : Name} {ts : List Token} {p : Position} (h : n ∈ namesIn p ts) :
    n.position = p ∨ p.Before n.position := by
  obtain ⟨before, t, after, -, -, rfl⟩ := mem_namesIn h
  by_cases he : textOf before = []
  · exact .inl (by simp [he])
  · exact .inr (Position.before_advance p he)

/-- **The places of the names rise.** -/
theorem namesIn_before :
    ∀ {ts : List Token} (p : Position), (∀ t ∈ ts, t.isName = true → t.text ≠ []) →
      (namesIn p ts).Pairwise fun m n => m.position.Before n.position
  | [], _, _ => .nil
  | t :: ts, p, h => by
    have ih := namesIn_before (p.advance t.text) fun u hu => h u (List.mem_cons_of_mem _ hu)
    rw [namesIn]
    unfold nameOf
    split
    · rename_i ht
      refine List.pairwise_cons.2 ⟨fun n hn => ?_, ih⟩
      have hp := Position.before_advance p (h t (by simp) ht)
      rcases namesIn_from hn with he | hb
      · simpa [he] using hp
      · exact hp.trans hb
    · exact ih

/-! ## Places in a file -/

/-- The names of a file's declarations are names of its code, in the same order. -/
theorem declared_sublist (filename content : Bytes) :
    ((bodies .start .start (tokens (codeOf filename content))).map Prod.fst).Sublist
      (namesIn .start (tokens (codeOf filename content))) := by
  simpa [Phase.pending] using names_sublist (tokens (codeOf filename content)) .start .start

/-- A place in the code where a byte stands that is no space is within its line, also without a
carriage return at the end of the line. -/
theorem column_le_of_nonspace {before : Bytes} {b : UInt8} {rest : Bytes} (hb : isSpace b = false)
    {line : Bytes}
    (hline : ((before ++ b :: rest).splitOn 0x0A)[(Position.start.advance before).line - 1]? =
      some line) :
    (Position.start.advance before).column ≤ (withoutReturn line).length := by
  obtain ⟨last, first, more, hfirst, hat, hcol⟩ := line_at_advance before (b :: rest)
  have hline' : line = last ++ first := by rw [hat] at hline; exact (Option.some.inj hline).symm
  have hne : b ≠ 0x0A := by rintro rfl; exact absurd hb (by decide)
  have hnr : b ≠ 0x0D := by rintro rfl; exact absurd hb (by decide)
  -- the line goes on with the byte
  obtain ⟨q, qs, hq⟩ := Bytes.exists_splitOn_cons 0x0A rest
  rw [Bytes.splitOn_cons_of_ne hne hq] at hfirst
  obtain ⟨rfl, -⟩ := List.cons.inj hfirst
  subst hline'
  rw [hcol]
  unfold withoutReturn
  split
  · -- a carriage return at the end of the line is another byte
    rename_i hr
    cases q with
    | nil => simp [hnr] at hr
    | cons c q =>
      simp only [List.length_dropLast, List.length_append, List.length_cons]
      omega
  · simp only [List.length_append, List.length_cons]
    omega

/-- **A name of the code** is read at its place, and its place is in the content. -/
theorem place_of_name (filename content : Bytes) {n : Name}
    (h : n ∈ namesIn .start (tokens (codeOf filename content))) :
    1 ≤ n.position.line ∧ 1 ≤ n.position.column ∧
      n.text <+: textFrom (codeOf filename content) n.position ∧
      ∃ line, (content.splitOn 0x0A)[n.position.line - 1]? = some line ∧
        n.position.column ≤ (withoutReturn line).length := by
  obtain ⟨before, t, after, hts, ht, rfl⟩ := mem_namesIn h
  obtain ⟨b, rest, hb, hspace⟩ := nonspace_of_mem_tokens (s := codeOf filename content) (t := t)
    (by rw [hts]; simp) (ne_whitespace_of_isName ht)
  have hcode : codeOf filename content = textOf before ++ b :: (rest ++ textOf after) := by
    rw [← textOf_tokens (codeOf filename content), hts]
    simp [hb]
  obtain ⟨last, first, more, -, hat, hcol⟩ :=
    line_at_advance (textOf before) (b :: (rest ++ textOf after))
  refine ⟨line_pos _, by simp only [hcol]; omega, ?_, ?_⟩
  · simp only [hcode, textFrom_advance, hb]
    exact ⟨textOf after, by simp⟩
  · -- the line of the code is the line of the content, byte by byte kept
    have hkept := splitOn_kept (codeOf_kept filename content)
    rw [hcode] at hkept
    obtain ⟨line, hline, hk⟩ := exists_line_kept hkept hat
    refine ⟨line, hline, ?_⟩
    rw [withoutReturn_length_kept hk]
    exact column_le_of_nonspace hspace hat

/-- **The places of declarations are exact.** The line is one of the content and `lineText` is its
text, the column is within it, the property is read there in the code, and the places rise. -/
theorem declarations_positions (filename content : Bytes) :
    textOf (tokens (codeOf filename content)) = codeOf filename content ∧
      (∀ d ∈ declarations filename content,
        1 ≤ d.position.line ∧ d.position.line ≤ (content.splitOn 0x0A).length ∧
        (∃ line, (content.splitOn 0x0A)[d.position.line - 1]? = some line ∧
          d.lineText = withoutReturn line) ∧
        1 ≤ d.position.column ∧ d.position.column ≤ d.lineText.length ∧
        d.property <+: textFrom (codeOf filename content) d.position) ∧
      (declarations filename content).Pairwise fun d e => d.position.Before e.position := by
  have hsub := declared_sublist filename content
  refine ⟨textOf_tokens _, ?_, ?_⟩
  · intro d hd
    rw [declarations_eq] at hd
    obtain ⟨x, hx, rfl⟩ := List.mem_map.1 hd
    obtain ⟨hl, hc, hpre, line, hline, hcol⟩ :=
      place_of_name filename content (hsub.mem (List.mem_map_of_mem hx))
    have htext : (declarationOf filename content x).lineText = withoutReturn line := by
      simp only [declarationOf, hline, Option.getD_some]
    have hlt := (List.getElem?_eq_some_iff.1 hline).1
    refine ⟨hl, ?_, ⟨line, hline, htext⟩, hc, by rw [htext]; exact hcol, hpre⟩
    simp only [declarationOf]
    omega
  · -- the names rise in the code, and the declarations are some of them
    have hrise := (namesIn_before .start fun t ht hn => ?_).sublist hsub
    · rw [List.pairwise_map] at hrise
      rw [declarations_eq, List.pairwise_map]
      exact hrise
    · obtain ⟨b, rest, hb, -⟩ := nonspace_of_mem_tokens ht (ne_whitespace_of_isName hn)
      simp [hb]

end VarLint.Stylesheet
