import VarLint.Proofs.LineLayout

/-!
# The grammar of statements

A token stream is a row of statements. A declaration is a name at the start of a statement, a colon,
and a body; what starts like one but ends in an opening brace is a selector; any other statement
runs to the next token that ends a statement.

* `IsBody`, `Ends`: where a body ends, said of the tokens before: by the depths of parentheses and
  interpolations that they leave open and by a `#` right before.
* `Statements p ts ds`: `ts`, read from position `p`, is a row of statements with the declarations
  `ds`.
* `collected_step`: what the machine holds inside a value is a function of the tokens of the body so
  far (`collected`), and `Body.step` follows it until the body ends (`step_of_ends`).
* `bodies_of_statements`, `exists_statements`: the machine finds what the grammar says, and every
  stream has a reading. Together, `bodies_eq_iff_statements`: **the machine recognises exactly the
  grammar.**
-/

namespace VarLint.Stylesheet

/-! ## Tokens -/

/-- The text of some tokens in a row. -/
def textOf (ts : List Token) : Bytes := ts.flatMap Token.text

/-- A token that may stand between the parts of a statement. -/
def Token.isFiller (t : Token) : Bool := t.kind == .whitespace || t.kind == .comment

/-- A token that can name a property. -/
def Token.isName (t : Token) : Bool := t.kind == .ident || t.kind == .customName

/-- The lone `#` before the brace of an interpolation. -/
def Token.isHashMark (t : Token) : Bool := t.kind == .delim && t.text == "#"

@[simp] theorem textOf_nil : textOf [] = [] := rfl

@[simp] theorem textOf_cons (t : Token) (ts : List Token) :
    textOf (t :: ts) = t.text ++ textOf ts :=
  rfl

@[simp] theorem textOf_append (ts us : List Token) :
    textOf (ts ++ us) = textOf ts ++ textOf us := by
  simp [textOf]

/-! ## Bodies -/

/-- The tokens of a body that count, which are all but the comments. -/
def significant (body : List Token) : List Token := body.filter fun t => !(t.kind == .comment)

/-- The depth of parentheses behind some tokens of a body. One that closes none counts for
nothing. -/
def parens (body : List Token) : Nat :=
  body.foldl
    (fun depth t =>
      if t.kind = .function ∨ t.kind = .leftParen then depth + 1
      else if t.kind = .rightParen then depth - 1
      else depth)
    0

/-- Whether a `#` stands right before what follows. -/
def behindHash (body : List Token) : Bool := (significant body).getLast?.any Token.isHashMark

/-- How many braces of a body open an interpolation, standing right behind a `#`. -/
def opened (body : List Token) : Nat :=
  ((significant body).zip (significant body).tail).countP fun (a, b) =>
    a.isHashMark && b.kind == .leftBrace

/-- How many closing braces a body has. -/
def closed (body : List Token) : Nat := body.countP fun t => t.kind == .rightBrace

/-- The depth of interpolations behind some tokens of a body. -/
def interpolations (body : List Token) : Nat := opened body - closed body

/-- Whether the token `t` behind `body` ends it: a semicolon outside of parentheses and
interpolations, a closing brace that belongs to no interpolation, or an opening brace outside of
parentheses that starts none. -/
def Ends (body : List Token) (t : Token) : Prop :=
  (t.kind = .semicolon ∧ parens body = 0 ∧ interpolations body = 0) ∨
    (t.kind = .rightBrace ∧ interpolations body = 0) ∨
    (t.kind = .leftBrace ∧ parens body = 0 ∧ behindHash body = false)

/-- None of the tokens ends the body before it. -/
def IsBody (body : List Token) : Prop := ∀ pre t post, body = pre ++ t :: post → ¬ Ends pre t

/-- The text that a body stands for. -/
def bodyText (body : List Token) : Bytes := textOf (significant body)

/-! ## Statements -/

/-- A name and its colon, with nothing but fillers before the name and between the two. -/
structure IsHead (gap : List Token) (name : Token) (sep : List Token) (colon : Token) : Prop where
  gap_filler : ∀ t ∈ gap, t.isFiller = true
  name_isName : name.isName = true
  sep_filler : ∀ t ∈ sep, t.isFiller = true
  colon_kind : colon.kind = .colon

/-- Whether a stream starts with a name and a colon. -/
def StartsWithHead (ts : List Token) : Prop :=
  ∃ gap name sep colon rest, IsHead gap name sep colon ∧ ts = gap ++ name :: sep ++ colon :: rest

/-- The stream `ts`, which starts at position `p`, is a row of statements with the declarations
`ds`. -/
inductive Statements : Position → List Token → List (Name × Bytes) → Prop
  /-- The rest of the stream, without an end. -/
  | rest {p : Position} {ts : List Token} (hhead : ¬ StartsWithHead ts)
      (hrun : ∀ t ∈ ts, endsStatement t.kind = false) : Statements p ts []
  /-- A statement that is no declaration, up to its end. -/
  | other {p : Position} {run : List Token} {e : Token} {ts : List Token}
      {ds : List (Name × Bytes)} (hhead : ¬ StartsWithHead (run ++ e :: ts))
      (hrun : ∀ t ∈ run, endsStatement t.kind = false) (hend : endsStatement e.kind = true)
      (htail : Statements (p.advance (textOf (run ++ [e]))) ts ds) :
      Statements p (run ++ e :: ts) ds
  /-- A declaration that a semicolon or a closing brace ends. -/
  | declaration {p : Position} {gap : List Token} {name : Token} {sep : List Token} {colon : Token}
      {body : List Token} {e : Token} {ts : List Token} {ds : List (Name × Bytes)}
      (hhead : IsHead gap name sep colon) (hbody : IsBody body) (hend : Ends body e)
      (hbrace : e.kind ≠ .leftBrace)
      (htail : Statements (p.advance (textOf (gap ++ name :: sep ++ colon :: body ++ [e]))) ts ds) :
      Statements p (gap ++ name :: sep ++ colon :: body ++ e :: ts)
        ((⟨name.text, p.advance (textOf gap)⟩, bodyText body) :: ds)
  /-- A declaration that the end of the stream ends. -/
  | unfinished {p : Position} {gap : List Token} {name : Token} {sep : List Token} {colon : Token}
      {body : List Token} (hhead : IsHead gap name sep colon) (hbody : IsBody body) :
      Statements p (gap ++ name :: sep ++ colon :: body)
        [(⟨name.text, p.advance (textOf gap)⟩, bodyText body)]
  /-- What an opening brace shows to be a selector. -/
  | selector {p : Position} {gap : List Token} {name : Token} {sep : List Token} {colon : Token}
      {body : List Token} {e : Token} {ts : List Token} {ds : List (Name × Bytes)}
      (hhead : IsHead gap name sep colon) (hbody : IsBody body) (hend : Ends body e)
      (hbrace : e.kind = .leftBrace)
      (htail : Statements (p.advance (textOf (gap ++ name :: sep ++ colon :: body ++ [e]))) ts ds) :
      Statements p (gap ++ name :: sep ++ colon :: body ++ e :: ts) ds

/-! ## Bodies token by token -/

theorem isBody_nil : IsBody [] := by
  intro pre t post h
  simp at h

/-- A body goes on through a token that does not end it. -/
theorem isBody_snoc {body : List Token} {t : Token} :
    IsBody (body ++ [t]) ↔ IsBody body ∧ ¬ Ends body t := by
  constructor
  · intro h
    refine ⟨fun pre u post he => h pre u (post ++ [t]) (by simp [he]), h body t [] rfl⟩
  · rintro ⟨hb, ht⟩ pre u post he
    rcases List.eq_nil_or_concat post with rfl | ⟨post, v, rfl⟩
    · obtain ⟨rfl, hu⟩ := List.append_inj' he rfl
      cases hu
      exact ht
    · rw [List.concat_eq_append, ← List.cons_append, ← List.append_assoc] at he
      obtain ⟨rfl, -⟩ := List.append_inj' he rfl
      exact hb pre u post rfl

/-- The start of a body is one. -/
theorem IsBody.of_append {body rest : List Token} (h : IsBody (body ++ rest)) : IsBody body :=
  fun pre t post he => h pre t (post ++ rest) (by simp [he])

theorem significant_snoc (body : List Token) (t : Token) :
    significant (body ++ [t]) =
      if t.kind = .comment then significant body else significant body ++ [t] := by
  by_cases h : t.kind = .comment <;> simp [significant, h]

theorem parens_snoc (body : List Token) (t : Token) :
    parens (body ++ [t]) =
      if t.kind = .function ∨ t.kind = .leftParen then parens body + 1
      else if t.kind = .rightParen then parens body - 1
      else parens body := by
  simp [parens]

theorem closed_snoc (body : List Token) (t : Token) :
    closed (body ++ [t]) = closed body + if t.kind = .rightBrace then 1 else 0 := by
  by_cases h : t.kind = .rightBrace <;> simp [closed, h]

/-- Only the last of the tokens and the new one are a new pair of neighbours. -/
theorem zip_tail_snoc {α : Type} (l : List α) (x : α) :
    (l ++ [x]).zip (l ++ [x]).tail = l.zip l.tail ++ (l.getLast?.map fun y => (y, x)).toList := by
  induction l with
  | nil => rfl
  | cons a l ih =>
    cases l with
    | nil => rfl
    | cons b l =>
      simp only [List.cons_append, List.tail_cons, List.zip_cons_cons] at ih ⊢
      rw [ih]
      simp [List.getLast?_cons]

theorem opened_snoc (body : List Token) (t : Token) :
    opened (body ++ [t]) =
      opened body + if t.kind = .leftBrace ∧ behindHash body = true then 1 else 0 := by
  unfold opened behindHash
  rw [significant_snoc]
  by_cases hc : t.kind = .comment
  · simp [hc]
  · rw [if_neg hc, zip_tail_snoc, List.countP_append]
    congr 1
    cases (significant body).getLast? with
    | none => simp
    | some a => by_cases hb : t.kind = .leftBrace <;> simp [hb, List.countP_cons]

theorem behindHash_snoc (body : List Token) (t : Token) :
    behindHash (body ++ [t]) = if t.kind = .comment then behindHash body else t.isHashMark := by
  unfold behindHash
  rw [significant_snoc]
  by_cases hc : t.kind = .comment <;> simp [hc]

theorem bodyText_snoc (body : List Token) (t : Token) :
    bodyText (body ++ [t]) =
      if t.kind = .comment then bodyText body else bodyText body ++ t.text := by
  unfold bodyText
  rw [significant_snoc]
  by_cases hc : t.kind = .comment <;> simp [hc]

/-- In a body no brace closes more than is open. -/
theorem closed_le_opened {body : List Token} (h : IsBody body) : closed body ≤ opened body := by
  induction body using List.reverseRecOn with
  | nil => simp [closed]
  | append_singleton body t ih =>
    obtain ⟨hb, ht⟩ := isBody_snoc.1 h
    have := ih hb
    rw [closed_snoc, opened_snoc]
    by_cases hk : t.kind = .rightBrace
    · have hd : interpolations body ≠ 0 := fun h0 => ht (.inr (.inl ⟨hk, h0⟩))
      unfold interpolations at hd
      simp only [hk, if_true]
      omega
    · simp only [hk, if_false]
      omega

/-- What the machine holds behind some tokens of a body. -/
def collected (body : List Token) : Body :=
  { text := bodyText body
    parens := parens body
    interpolations := interpolations body
    afterHash := behindHash body }

theorem collected_nil : collected [] = {} := rfl

/-- **Inside a body** the machine adds the token and goes on. -/
theorem collected_step {body : List Token} {t : Token} (h : IsBody (body ++ [t])) :
    (collected body).step t = .continues (collected (body ++ [t])) := by
  obtain ⟨hb, ht⟩ := isBody_snoc.1 h
  have hle := closed_le_opened hb
  unfold collected Body.step interpolations
  rw [bodyText_snoc, parens_snoc, opened_snoc, closed_snoc, behindHash_snoc]
  unfold Ends interpolations at ht
  cases hk : t.kind
  case leftBrace =>
    by_cases hh : behindHash body = true
    · simp [hk, hh, Body.add, Token.isHashMark]
      omega
    · have hp : parens body ≠ 0 := fun h0 => ht (.inr (.inr ⟨hk, h0, by simpa using hh⟩))
      simp [hk, hh, hp, Body.add, Token.isHashMark]
  case rightBrace =>
    have hd : 0 < opened body - closed body :=
      Nat.pos_of_ne_zero fun h0 => ht (.inr (.inl ⟨hk, h0⟩))
    simp [hk, hd, Body.add, Token.isHashMark, Nat.sub_sub]
  case semicolon =>
    have hd : ¬ (parens body = 0 ∧ opened body - closed body = 0) :=
      fun h0 => ht (.inl ⟨hk, h0.1, h0.2⟩)
    simp [hk, hd, Body.add, Token.isHashMark]
  all_goals simp [hk, Body.add, Token.isHashMark]

/-- **At its end** the machine completes a body, or cancels it at an opening brace. -/
theorem step_of_ends {body : List Token} {t : Token} (h : Ends body t) :
    (collected body).step t = if t.kind = .leftBrace then .cancels else .completes := by
  unfold collected Body.step
  rcases h with ⟨hk, hp, hi⟩ | ⟨hk, hi⟩ | ⟨hk, hp, hh⟩
  · simp [hk, hp, hi]
  · simp [hk, hi]
  · simp [hk, hp, hh]

/-! ## The machine on statements -/

theorem bodies_cons (phase : Phase) (p : Position) (t : Token) (ts : List Token) :
    bodies phase p (t :: ts) =
      (phase.step p t).2.toList ++ bodies (phase.step p t).1 (p.advance t.text) ts := by
  cases phase <;> rfl

/-- A filler outside of a value changes nothing. -/
theorem step_filler {phase : Phase} (hv : ∀ n b, phase ≠ .value n b) (p : Position) {t : Token}
    (h : t.isFiller = true) : phase.step p t = (phase, none) := by
  unfold Token.isFiller at h
  cases phase with
  | value n b => exact absurd rfl (hv n b)
  | _ => simp [Phase.step, h]

theorem bodies_fillers {phase : Phase} (hv : ∀ n b, phase ≠ .value n b) :
    ∀ {gap : List Token}, (∀ t ∈ gap, t.isFiller = true) → ∀ (p : Position) (ts : List Token),
      bodies phase p (gap ++ ts) = bodies phase (p.advance (textOf gap)) ts
  | [], _, _, _ => rfl
  | t :: gap, h, p, ts => by
    rw [List.cons_append, bodies_cons, step_filler hv p (h t (by simp)),
      bodies_fillers hv (fun u hu => h u (by simp [hu]))]
    simp

/-- A name and its colon lead into a value. -/
theorem bodies_head {gap : List Token} {name : Token} {sep : List Token} {colon : Token}
    (h : IsHead gap name sep colon) (p : Position) (ts : List Token) :
    bodies .start p (gap ++ name :: sep ++ colon :: ts) =
      bodies (.value ⟨name.text, p.advance (textOf gap)⟩ {})
        (p.advance (textOf (gap ++ name :: sep ++ [colon]))) ts := by
  have hname : ∀ q, Phase.start.step q name = (.named ⟨name.text, q⟩, none) := by
    intro q
    have := h.name_isName
    unfold Token.isName at this
    simp only [Bool.or_eq_true, beq_iff_eq] at this
    rcases this with hk | hk <;> simp [Phase.step, hk]
  have hcolon : ∀ n q, (Phase.named n).step q colon = (.value n {}, none) := by
    intro n q
    simp [Phase.step, h.colon_kind]
  rw [List.append_assoc, bodies_fillers (by simp) h.gap_filler, List.cons_append,
    bodies_cons, hname, bodies_fillers (by simp) h.sep_filler, bodies_cons, hcolon]
  simp

/-- Running through a body. -/
theorem bodies_body (n : Name) :
    ∀ (body pre : List Token), IsBody (pre ++ body) → ∀ (p : Position) (ts : List Token),
      bodies (.value n (collected pre)) p (body ++ ts) =
        bodies (.value n (collected (pre ++ body))) (p.advance (textOf body)) ts
  | [], pre, _, _, _ => by simp
  | t :: body, pre, h, p, ts => by
    rw [List.append_cons] at h ⊢
    rw [List.cons_append, bodies_cons, Phase.step, collected_step h.of_append]
    simp only [Option.toList_none, List.nil_append]
    rw [bodies_body n body (pre ++ [t]) h]
    simp

/-- A value ends where its body does: at an opening brace without a declaration. -/
theorem bodies_value_end (n : Name) {body : List Token} (hb : IsBody body) {e : Token}
    (he : Ends body e) (p : Position) (ts : List Token) :
    bodies (.value n {}) p (body ++ e :: ts) =
      (if e.kind = .leftBrace then [] else [(n, bodyText body)]) ++
        bodies .start (p.advance (textOf (body ++ [e]))) ts := by
  rw [← collected_nil, bodies_body n body [] hb, List.nil_append, bodies_cons, Phase.step,
    step_of_ends he]
  by_cases hk : e.kind = .leftBrace
  · simp [hk]
  · simp [hk, collected]

/-- A name, its colon and a body up to its end. -/
theorem bodies_head_body {gap : List Token} {name : Token} {sep : List Token} {colon : Token}
    (h : IsHead gap name sep colon) {body : List Token} (hb : IsBody body) {e : Token}
    (he : Ends body e) (p : Position) (ts : List Token) :
    bodies .start p (gap ++ name :: sep ++ colon :: body ++ e :: ts) =
      (if e.kind = .leftBrace then []
        else [(⟨name.text, p.advance (textOf gap)⟩, bodyText body)]) ++
        bodies .start (p.advance (textOf (gap ++ name :: sep ++ colon :: body ++ [e]))) ts := by
  rw [List.append_assoc (gap ++ name :: sep), List.cons_append, bodies_head h,
    bodies_value_end _ hb he]
  simp

/-- A value that the end of the stream ends. -/
theorem bodies_value_last (n : Name) {body : List Token} (hb : IsBody body) (p : Position) :
    bodies (.value n {}) p body = [(n, bodyText body)] := by
  have := bodies_body n body [] hb p []
  rw [List.append_nil, collected_nil] at this
  rw [this]
  rfl

/-! ## The machine on other statements -/

/-- Outside of a declaration only the ends of statements count. -/
theorem step_rest (p : Position) (t : Token) :
    (Phase.rest.step p t) = (if t.isFiller then .rest else phaseAfter t.kind, none) := by
  by_cases hf : t.isFiller = true
  · rw [step_filler (by simp) p hf, if_pos hf]
  · unfold Token.isFiller at hf
    simp [Phase.step, Token.isFiller, hf]

/-- A token that ends a statement is no filler, no name and no colon. -/
theorem not_filler_of_ends {t : Token} (h : endsStatement t.kind = true) :
    t.isFiller = false ∧ t.isName = false ∧ t.kind ≠ .colon := by
  unfold endsStatement at h
  simp only [Bool.or_eq_true, beq_iff_eq] at h
  rcases h with (h | h) | h <;> simp [Token.isFiller, Token.isName, h]

/-- A name that no colon follows is nothing special. -/
theorem bodies_named {n : Name} :
    ∀ {ts : List Token}, (∀ sep colon rest, (∀ t ∈ sep, t.isFiller = true) →
        ts = sep ++ colon :: rest → colon.kind ≠ .colon) →
      ∀ p : Position, bodies (.named n) p ts = bodies .rest p ts
  | [], _, _ => rfl
  | t :: ts, h, p => by
    rw [bodies_cons, bodies_cons]
    by_cases hf : t.isFiller = true
    · rw [step_filler (by simp) p hf, step_filler (by simp) p hf]
      refine congrArg _ (bodies_named (fun sep colon rest hsep he => ?_) _)
      exact h (t :: sep) colon rest (by simpa [hf] using hsep) (by simp [he])
    · have hc : t.kind ≠ .colon := h [] t ts (by simp) rfl
      unfold Token.isFiller at hf
      simp [Phase.step, hf, hc]

/-- A statement that is no declaration is read like the rest of one. -/
theorem bodies_no_head :
    ∀ {ts : List Token}, ¬ StartsWithHead ts →
      ∀ p : Position, bodies .start p ts = bodies .rest p ts
  | [], _, _ => rfl
  | t :: ts, h, p => by
    rw [bodies_cons, bodies_cons]
    by_cases hf : t.isFiller = true
    · rw [step_filler (by simp) p hf, step_filler (by simp) p hf]
      refine congrArg _ (bodies_no_head (fun hs => h ?_) _)
      obtain ⟨gap, name, sep, colon, rest, ⟨hg, hn, hsep, hc⟩, rfl⟩ := hs
      exact ⟨t :: gap, name, sep, colon, rest, ⟨by simpa [hf] using hg, hn, hsep, hc⟩, rfl⟩
    · by_cases hn : t.isName = true
      · -- the name waits for a colon in vain
        have hnamed : Phase.start.step p t = (.named ⟨t.text, p⟩, none) := by
          unfold Token.isFiller at hf
          unfold Token.isName at hn
          simp [Phase.step, hf, hn]
        have hrest : Phase.rest.step p t = (.rest, none) := by
          unfold Token.isName at hn
          simp only [Bool.or_eq_true, beq_iff_eq] at hn
          rcases hn with hk | hk <;> simp [Phase.step, phaseAfter, endsStatement, hk]
        rw [hnamed, hrest]
        refine congrArg _ (bodies_named (fun sep colon rest hsep he hc => h ?_) _)
        exact ⟨[], t, sep, colon, rest, ⟨by simp, hn, hsep, hc⟩, by simp [he]⟩
      · unfold Token.isFiller at hf
        unfold Token.isName at hn
        simp [Phase.step, hf, hn]

/-- The rest of a statement, up to its end. -/
theorem bodies_run :
    ∀ {run : List Token}, (∀ t ∈ run, endsStatement t.kind = false) →
      ∀ (p : Position) (ts : List Token),
        bodies .rest p (run ++ ts) = bodies .rest (p.advance (textOf run)) ts
  | [], _, _, _ => rfl
  | t :: run, h, p, ts => by
    have hstep : Phase.rest.step p t = (.rest, none) := by
      simp [step_rest, phaseAfter, h t (by simp)]
    rw [List.cons_append, bodies_cons, hstep, bodies_run (fun u hu => h u (by simp [hu]))]
    simp

/-- **The machine finds the declarations of the grammar.** -/
theorem bodies_of_statements {p : Position} {ts : List Token} {ds : List (Name × Bytes)}
    (h : Statements p ts ds) : bodies .start p ts = ds := by
  induction h with
  | rest hhead hrun =>
    rename_i p ts
    rw [bodies_no_head hhead, ← List.append_nil ts, bodies_run hrun]
    rfl
  | other hhead hrun hend htail ih =>
    rename_i p run e ts ds
    have hstep : ∀ q, Phase.rest.step q e = (.start, none) := fun q => by
      simp [step_rest, phaseAfter, hend, (not_filler_of_ends hend).1]
    rw [bodies_no_head hhead, bodies_run hrun, bodies_cons, hstep, ← ih]
    simp
  | declaration hhead hbody hend hbrace htail ih =>
    rw [bodies_head_body hhead hbody hend, ih, if_neg hbrace]
    rfl
  | unfinished hhead hbody => rw [bodies_head hhead, bodies_value_last _ hbody]
  | selector hhead hbody hend hbrace htail ih =>
    rw [bodies_head_body hhead hbody hend, ih, if_pos hbrace]
    rfl

/-! ## Every stream has a reading -/

/-- The tokens behind a colon are a body to the end of the stream, or one with its end. -/
theorem exists_body :
    ∀ (ts : List Token) {pre : List Token}, IsBody pre →
      IsBody (pre ++ ts) ∨
        ∃ body e rest, ts = body ++ e :: rest ∧ IsBody (pre ++ body) ∧ Ends (pre ++ body) e
  | [], pre, hp => .inl (by simpa using hp)
  | t :: ts, pre, hp => by
    by_cases he : Ends pre t
    · exact .inr ⟨[], t, ts, rfl, by simpa using hp, by simpa using he⟩
    · rcases exists_body ts (isBody_snoc.2 ⟨hp, he⟩) with h | ⟨body, e, rest, rfl, hb, hend⟩
      · exact .inl (by simpa using h)
      · exact .inr ⟨t :: body, e, rest, rfl, by simpa using hb, by simpa using hend⟩

/-- **Every stream is a row of statements.** The induction is on the length of what is left. -/
theorem exists_statements : ∀ (p : Position) (ts : List Token), ∃ ds, Statements p ts ds := by
  intro p ts
  induction hlen : ts.length using Nat.strongRecOn generalizing p ts with
  | ind n ih =>
    by_cases hs : StartsWithHead ts
    · obtain ⟨gap, name, sep, colon, rest, hhead, rfl⟩ := hs
      rcases exists_body rest isBody_nil with hb | ⟨body, e, ts, rfl, hb, hend⟩
      · exact ⟨_, .unfinished hhead hb⟩
      · rw [List.nil_append] at hb hend
        obtain ⟨ds, hd⟩ := ih ts.length (by subst hlen; simp; omega)
          (p.advance (textOf (gap ++ name :: sep ++ colon :: body ++ [e]))) ts rfl
        rw [← List.cons_append, ← List.append_assoc]
        by_cases hk : e.kind = .leftBrace
        · exact ⟨ds, .selector hhead hb hend hk hd⟩
        · exact ⟨_, .declaration hhead hb hend hk hd⟩
    · cases hf : ts.find? fun t => endsStatement t.kind with
      | none => exact ⟨[], .rest hs (by simpa using List.find?_eq_none.1 hf)⟩
      | some e =>
        obtain ⟨hend, run, rest, rfl, hrun⟩ := List.find?_eq_some_iff_append.1 hf
        obtain ⟨ds, hd⟩ := ih rest.length (by subst hlen; simp; omega)
          (p.advance (textOf (run ++ [e]))) rest rfl
        exact ⟨ds, .other hs (by simpa using hrun) hend hd⟩

/-! ## Declarations of a file -/

/-- A value without the flag at its end, and whether it had the flag. -/
def withoutFlag (value : Bytes) : Bytes × Bool :=
  match importantFlag.beforeFirst? value with
  | some before => (before.trim, true)
  | none => (value, false)

/-- The declaration that a name and the text of a body make in a file: its value is the text without
blanks around it, before the flag is taken off. -/
def declarationOf (filename content : Bytes) (x : Name × Bytes) : Declaration :=
  { property := x.1.text
    value := (withoutFlag x.2.trim).1
    important := (withoutFlag x.2.trim).2
    file := filename
    position := x.1.position
    lineText := withoutReturn (((content.splitOn 0x0A)[x.1.position.line - 1]?).getD []) }

theorem declarations_eq (filename content : Bytes) :
    declarations filename content =
      (bodies .start .start (tokens (codeOf filename content))).map
        (declarationOf filename content) := by
  simp only [declarations, List.getElem?_toArray]
  rfl

/-- **The machine recognises exactly the grammar**: from the start of a statement it records the
declarations `ds` of a stream, in order and with the names, the places and the texts that the
grammar gives them, just when the stream is a row of statements with the declarations `ds`. The
declarations of a file are those of its tokens. -/
theorem bodies_eq_iff_statements (p : Position) (ts : List Token) (filename content : Bytes) :
    (∀ ds, bodies .start p ts = ds ↔ Statements p ts ds) ∧
      ∃ ds, Statements .start (tokens (codeOf filename content)) ds ∧
        declarations filename content = ds.map (declarationOf filename content) := by
  refine ⟨fun ds => ⟨fun h => ?_, bodies_of_statements⟩, ?_⟩
  · obtain ⟨ds', hd⟩ := exists_statements p ts
    rw [← h, bodies_of_statements hd]
    exact hd
  · obtain ⟨ds, hd⟩ := exists_statements .start (tokens (codeOf filename content))
    refine ⟨ds, hd, ?_⟩
    rw [declarations_eq, bodies_of_statements hd]

end VarLint.Stylesheet
