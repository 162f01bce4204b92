import VarLint.Proofs.DeclarationPositions
import VarLint.Proofs.TokenLocality

/-!
# Declarations of style sheets in a row

* `bodies_append`: where the machine is at the start of a statement, it goes on as if it had just
  been started, at the place it has reached.
* `bodies_down`: the machine reads the places of names and nothing else of them, so from a place
  that many lines further down it finds the same declarations, that many lines further down.
* `bodies_blank`: white space at the start of a text only moves the place.
* `declarations_append`: **the declarations of two style sheets in a row** are those of the first,
  and those of the second below them.
-/

namespace VarLint.Stylesheet

/-! ## Runs in a row -/

/-- The phase behind some tokens, the first of which stands at `p`. -/
def Phase.after : Phase → Position → List Token → Phase
  | phase, _, [] => phase
  | phase, p, t :: ts => ((phase.step p t).1).after (p.advance t.text) ts

/-- **At the start of a statement** nothing is left of the tokens before. -/
theorem bodies_append :
    ∀ {phase : Phase} {p : Position} {ts : List Token}, phase.after p ts = .start →
      ∀ us : List Token, bodies phase p (ts ++ us) =
        bodies phase p ts ++ bodies .start (p.advance (textOf ts)) us
  | phase, p, [], h, us => by
    have hphase : phase = .start := h
    subst hphase
    rfl
  | phase, p, t :: ts, h, us => by
    have hrest : ((phase.step p t).1).after (p.advance t.text) ts = .start := h
    rw [List.cons_append, bodies_cons, bodies_cons, bodies_append hrest us, List.append_assoc,
      textOf_cons, Position.advance_append]

/-! ## Runs further down -/

/-- The place `k` lines further down. -/
def Position.down (p : Position) (k : Nat) : Position := { p with line := p.line + k }

/-- The name `k` lines further down. -/
def Name.down (n : Name) (k : Nat) : Name := { n with position := n.position.down k }

/-- The phase with the name that it waits with `k` lines further down. -/
def Phase.down (phase : Phase) (k : Nat) : Phase :=
  match phase with
  | .named name => .named (name.down k)
  | .value name body => .value (name.down k) body
  | phase => phase

theorem advance_down (k : Nat) :
    ∀ (s : Bytes) (p : Position), (p.down k).advance s = (p.advance s).down k
  | [], _ => rfl
  | b :: s, p => by
    have hstep : (p.down k).step b = (p.step b).down k := by
      unfold Position.step Position.down
      split
      · simp only [Nat.add_right_comm]
      · rfl
    show ((p.down k).step b).advance s = _
    rw [hstep, advance_down k s]
    rfl

theorem line_advance : ∀ (s : Bytes) (p : Position),
    (p.advance s).line = p.line + s.count 0x0A
  | [], _ => rfl
  | b :: s, p => by
    show ((p.step b).advance s).line = _
    rw [line_advance s, List.count_cons]
    unfold Position.step
    split <;> simp only <;> omega

theorem phaseAfter_down (kind : TokenKind) (k : Nat) :
    (phaseAfter kind).down k = phaseAfter kind := by
  unfold phaseAfter
  split <;> rfl

/-- **One step further down** does the same. -/
theorem step_down (k : Nat) (phase : Phase) (p : Position) (t : Token) :
    (phase.down k).step (p.down k) t =
      ((phase.step p t).1.down k, (phase.step p t).2.map fun x => (x.1.down k, x.2)) := by
  have hafter : (phaseAfter t.kind, none) = ((phaseAfter t.kind).down k,
      (none : Option (Name × Bytes)).map fun x => (x.1.down k, x.2)) := by
    rw [phaseAfter_down]
    rfl
  cases phase with
  | value name body =>
    simp only [Phase.down, Phase.step]
    cases body.step t <;> rfl
  | start =>
    simp only [Phase.down, Phase.step]
    split
    · rfl
    · split
      · rfl
      · exact hafter
  | rest =>
    simp only [Phase.down, Phase.step]
    split
    · rfl
    · exact hafter
  | named name =>
    simp only [Phase.down, Phase.step]
    split
    · rfl
    · split
      · rfl
      · exact hafter

/-- **A run further down** finds the same declarations there. -/
theorem bodies_down (k : Nat) : ∀ (ts : List Token) (phase : Phase) (p : Position),
    bodies (phase.down k) (p.down k) ts = (bodies phase p ts).map fun x => (x.1.down k, x.2)
  | [], phase, _ => by cases phase <;> rfl
  | t :: ts, phase, p => by
    rw [bodies_cons, bodies_cons, step_down, advance_down, bodies_down k ts, List.map_append]
    cases (phase.step p t).2 <;> rfl

/-! ## White space at the start -/

theorem tokensFrom_drop : ∀ (skip : Nat) (s : Bytes), tokensFrom skip s = tokens (s.drop skip)
  | 0, _ => rfl
  | _ + 1, [] => rfl
  | skip + 1, _ :: s => tokensFrom_drop skip s

theorem tokens_space {b : UInt8} (hb : isSpace b = true) (s : Bytes) :
    tokens (b :: s) =
      ⟨.whitespace, b :: s.takeWhile isSpace⟩ :: tokens (s.dropWhile isSpace) := by
  have hat : tokenAt b s = (.whitespace, 1 + spaceRun s) := by simp [tokenAt, hb]
  have hsplit : s = s.takeWhile isSpace ++ s.dropWhile isSpace :=
    List.takeWhile_append_dropWhile.symm
  have htake : s.take (spaceRun s) = s.takeWhile isSpace :=
    (congrArg (List.take (spaceRun s)) hsplit).trans List.take_left
  have hdrop : s.drop (spaceRun s) = s.dropWhile isSpace :=
    (congrArg (List.drop (spaceRun s)) hsplit).trans List.drop_left
  rw [tokens, tokensFrom_cons, hat, tokensFrom_drop, Nat.add_sub_cancel_left, htake, hdrop]

/-- **White space before the first statement** only moves the place. -/
theorem bodies_blank (p : Position) (s : Bytes) :
    bodies .start p (tokens s) =
      bodies .start (p.advance (s.takeWhile isSpace)) (tokens (s.dropWhile isSpace)) := by
  cases s with
  | nil => rfl
  | cons b s =>
    cases hb : isSpace b with
    | false => simp [hb]
    | true =>
      rw [tokens_space hb, bodies_cons, step_filler (by simp) p rfl, List.takeWhile_cons,
        List.dropWhile_cons, hb]
      rfl

/-- Behind a line feed, a text is read from the start of the next line. -/
theorem bodies_lineFeed (p : Position) (s : Bytes) :
    bodies .start p (tokens (0x0A :: s)) =
      bodies .start (Position.start.down p.line) (tokens s) := by
  have hnext : p.step 0x0A = Position.start.down p.line := by
    simp [Position.step, Position.down, Position.start, Nat.add_comm]
  rw [bodies_blank, bodies_blank _ s, ← hnext]
  rfl

/-! ## Lines in a row -/

theorem splitOn_lineFeed (s t : Bytes) :
    (s ++ 0x0A :: t).splitOn 0x0A = s.splitOn 0x0A ++ t.splitOn 0x0A := by
  obtain ⟨init, last, hs, -⟩ := Position.advance_start s
  rw [Bytes.splitOn_append (Bytes.splitOn_cons_self 0x0A t) hs, hs]
  simp

theorem length_splitOn (s : Bytes) : (s.splitOn 0x0A).length = 1 + s.count 0x0A := by
  obtain ⟨init, last, hs, hp⟩ := Position.advance_start s
  have hline := line_advance s .start
  rw [hp] at hline
  rw [hs, List.length_append, List.length_singleton]
  exact hline

/-- What is declared is named on a line of the content. -/
theorem line_of_mem_bodies (filename : Bytes) {content : Bytes} {x : Name × Bytes}
    (hx : x ∈ bodies .start .start (tokens (codeOf filename content))) :
    1 ≤ x.1.position.line ∧ x.1.position.line - 1 < (content.splitOn 0x0A).length := by
  obtain ⟨hl, -, -, line, hline, -⟩ := place_of_name filename content
    ((declared_sublist filename content).mem (List.mem_map_of_mem hx))
  exact ⟨hl, (List.getElem?_eq_some_iff.1 hline).1⟩

/-- The declaration `k` lines further down. -/
def lower (k : Nat) (d : Declaration) : Declaration := { d with position := d.position.down k }

theorem declarationOf_above {filename a b : Bytes} {x : Name × Bytes}
    (hx : x.1.position.line - 1 < (a.splitOn 0x0A).length) :
    declarationOf filename (a ++ 0x0A :: b) x = declarationOf filename a x := by
  simp only [declarationOf, splitOn_lineFeed, List.getElem?_append_left hx]

theorem declarationOf_below {filename a b : Bytes} {x : Name × Bytes}
    (hx : 1 ≤ x.1.position.line) :
    declarationOf filename (a ++ 0x0A :: b) (x.1.down (1 + a.count 0x0A), x.2) =
      lower (1 + a.count 0x0A) (declarationOf filename b x) := by
  have hindex : x.1.position.line + (1 + a.count 0x0A) - 1 =
      (a.splitOn 0x0A).length + (x.1.position.line - 1) := by
    rw [length_splitOn]
    omega
  simp only [declarationOf, lower, Name.down, Position.down, splitOn_lineFeed, hindex]
  rw [List.getElem?_append_right (Nat.le_add_right _ _), Nat.add_sub_cancel_left]

/-- **The declarations of two style sheets in a row**, without line comments, the first one ending
in a closing brace at the start of a statement. Those of the first come first and are unchanged;
those of the second follow, further down by the lines of the first. -/
theorem declarations_append (filename a b : Bytes) (hfile : hasLineComments filename = false)
    (hbrace : EndsInBrace (tokens a)) (hstart : Phase.start.after .start (tokens a) = .start) :
    declarations filename (a ++ 0x0A :: b) =
      declarations filename a ++ (declarations filename b).map (lower (1 + a.count 0x0A)) := by
  have hcode : ∀ content, codeOf filename content = content := by simp [codeOf, hfile]
  -- the machine finds what it finds in the two, and the names of the second are further down
  have hbodies : bodies .start .start (tokens (a ++ 0x0A :: b)) =
      bodies .start .start (tokens a) ++ (bodies .start .start (tokens b)).map
        fun x => (x.1.down (1 + a.count 0x0A), x.2) := by
    rw [tokens_append hbrace, bodies_append hstart, textOf_tokens, bodies_lineFeed, line_advance]
    exact congrArg _ (bodies_down _ (tokens b) .start .start)
  rw [declarations_eq, declarations_eq, declarations_eq, hcode, hcode, hcode, hbodies,
    List.map_append, List.map_map, List.map_map]
  refine congrArg₂ _ (List.map_congr_left fun x hx => ?_) (List.map_congr_left fun x hx => ?_)
  · exact declarationOf_above (line_of_mem_bodies filename (by rwa [hcode])).2
  · exact declarationOf_below (line_of_mem_bodies filename (by rwa [hcode])).1

/-- A style sheet whose value leaves a parenthesis open and holds an interpolation. -/
def upperSheet : Bytes := "x: )(; #\x7ba: b\x7d !important\x7d p; q\x7d\r\n \x7b y \x7d"

/-- A style sheet with one declaration before a brace and one at the end. -/
def lowerSheet : Bytes := "  color: #fff\x7d\ni: j"

/-- Nothing of the open parenthesis reaches the sheet below. -/
theorem declarations_append_openParen :
    EndsInBrace (tokens upperSheet) ∧ Phase.start.after .start (tokens upperSheet) = .start ∧
      (declarations "a.css" upperSheet).length = 1 ∧ (declarations "a.css" lowerSheet).length = 2 ∧
      declarations "a.css" (upperSheet ++ 0x0A :: lowerSheet) =
        declarations "a.css" upperSheet ++
          (declarations "a.css" lowerSheet).map (lower (1 + upperSheet.count 0x0A)) := by
  refine ⟨by decide +kernel, by decide +kernel, by decide +kernel, by decide +kernel, ?_⟩
  exact declarations_append "a.css" upperSheet lowerSheet (by decide +kernel) (by decide +kernel)
    (by decide +kernel)

end VarLint.Stylesheet
