import VarLint.Regex.Parse
import VarLint.Proofs.Decoding

/-!
# Flags at the start of an expression

* `Alike x y`: both readings fail, or both give the same.
* `readFrom whole flags s`: reads an expression from given flags on. The text of the whole
  expression is shown in errors and has no other say (`readFrom_alike`).
* `parse_inline`: a group of flags `(?…)` at the start of an expression switches these on for all
  that follows, and leaves no other trace.
-/

namespace VarLint.Regex

/-! ## Readings that differ in their errors at most -/

/-- Both readings fail, or both give the same. -/
def Alike {α : Type} (x y : Except Error α) : Prop := x.toOption = y.toOption

namespace Alike

variable {α β : Type}

theorem refl (x : Except Error α) : Alike x x := rfl

theorem bind {x y : Except Error α} {f g : α → Except Error β} (h : Alike x y)
    (hfg : ∀ a, Alike (f a) (g a)) : Alike (x >>= f) (y >>= g) := by
  cases x with
  | error e =>
    cases y with
    | error e' => rfl
    | ok b => cases h
  | ok a =>
    cases y with
    | error e' => cases h
    | ok b =>
      cases h
      exact hfg a

theorem failure (fault fault' : Fault) (part part' : List Rune) :
    Alike (Regex.failure fault part : Except Error α) (Regex.failure fault' part') :=
  rfl

theorem ite {p : Prop} [Decidable p] {x y x' y' : Except Error α} (h : Alike x x')
    (h' : Alike y y') :
    Alike (if p then x else y) (if p then x' else y') := by
  split
  · exact h
  · exact h'

end Alike

section
variable (whole whole' : List Rune) (st : Progress)

theorem push_alike (p : Part) : Alike (st.push whole p) (st.push whole' p) :=
  .ite (.failure _ _ _ _) (.refl _)

theorem content_alike : Alike (st.content whole) (st.content whole') :=
  .ite (.failure _ _ _ _) (.refl _)

theorem nextAlternative_alike : Alike (st.nextAlternative whole) (st.nextAlternative whole') :=
  .ite (.failure _ _ _ _) (.refl _)

theorem closeGroup_alike : Alike (st.closeGroup whole) (st.closeGroup whole') := by
  refine .bind (content_alike whole whole' st) fun inside => ?_
  cases st.outer with
  | nil => exact .failure _ _ _ _
  | cons frame outer => exact push_alike whole whole' _ _

theorem repeatLast_alike (least : Nat) (most : Option Nat) (counted : Bool) (s rest : List Rune) :
    Alike (repeatLast whole st least most counted s rest)
      (repeatLast whole' st least most counted s rest) := by
  unfold repeatLast
  cases st.lastRepeat with
  | some earlier => exact .failure _ _ _ _
  | none =>
    cases st.parts with
    | nil => exact .failure _ _ _ _
    | cons p parts => exact .ite (.failure _ _ _ _) (.refl _)

theorem pushLiterals_alike : ∀ (s : List Rune) (st : Progress),
    Alike (pushLiterals whole st s) (pushLiterals whole' st s)
  | [], _ => .refl _
  | _ :: s, st =>
    .ite (.failure _ _ _ _) (.bind (push_alike whole whole' st _) (pushLiterals_alike s))

theorem push_then_alike (p : Part) (rest : List Rune) :
    Alike (do let st ← st.push whole p; return (st, rest))
      (do let st ← st.push whole' p; return (st, rest)) :=
  .bind (push_alike whole whole' st p) fun _ => .refl _

theorem backslash_alike (s : List Rune) : Alike (backslash whole st s) (backslash whole' st s) := by
  unfold backslash
  dsimp only
  split
  · exact push_then_alike whole whole' st _ _
  · exact push_then_alike whole whole' st _ _
  · exact push_then_alike whole whole' st _ _
  · exact push_then_alike whole whole' st _ _
  · exact .refl _
  · exact .bind (pushLiterals_alike whole whole' _ st) fun _ => .refl _
  · refine .bind (.refl _) fun found => ?_
    cases found with
    | some found => exact push_then_alike whole whole' st _ _
    | none =>
      dsimp only
      cases shorthandItem? s with
      | some found => exact push_then_alike whole whole' st _ _
      | none => exact .bind (.refl _) fun a => push_then_alike whole whole' st _ _

theorem step_alike (r : Rune) (s : List Rune) : Alike (step whole st r s) (step whole' st r s) := by
  unfold step
  dsimp only
  -- one case per kind of construct, in the order of `step`
  split
  · exact .refl _
  · exact .bind (nextAlternative_alike whole whole' st) fun _ => .refl _
  · exact .bind (closeGroup_alike whole whole' st) fun _ => .refl _
  · exact push_then_alike whole whole' st _ _
  · exact push_then_alike whole whole' st _ _
  · exact push_then_alike whole whole' st _ _
  · exact .bind (.refl _) fun a => push_then_alike whole whole' st _ _
  · exact repeatLast_alike whole whole' st _ _ _ _ _
  · exact repeatLast_alike whole whole' st _ _ _ _ _
  · exact repeatLast_alike whole whole' st _ _ _ _ _
  · cases repeatCounts? s with
    | none => exact push_then_alike whole whole' st _ _
    | some counts => exact .ite (.refl _) (repeatLast_alike whole whole' st _ _ _ _ _)
  · exact backslash_alike whole whole' st s
  · exact .bind (.refl _) fun a => push_then_alike whole whole' st _ _

end

theorem steps_alike (whole whole' : List Rune) : ∀ (skip : Nat) (st : Progress) (s : List Rune),
    Alike (steps whole skip st s) (steps whole' skip st s)
  | _, _, [] => .refl _
  | skip + 1, st, _ :: s => steps_alike whole whole' skip st s
  | 0, st, r :: s =>
    .bind (step_alike whole whole' st r (r :: s)) fun a =>
      steps_alike whole whole' (s.length - a.2.length) a.1 s

/-- Reads an expression from given flags on; `whole` is what errors show. -/
def readFrom (whole : List Rune) (flags : Flags) (s : List Rune) : Except Error Regex := do
  let st ← steps whole 0 ⟨flags, [], [], [], none⟩ s
  let all ← st.content whole
  if st.outer.isEmpty then return all.regex else failure .missingParen whole

theorem parse_eq_readFrom (text : Bytes) : parse text = readFrom text.runes {} text.runes := rfl

/-- **The whole text is for errors only.** -/
theorem readFrom_alike (whole whole' : List Rune) (flags : Flags) (s : List Rune) :
    Alike (readFrom whole flags s) (readFrom whole' flags s) := by
  refine .bind (steps_alike whole whole' 0 _ s) fun st => ?_
  exact .bind (content_alike whole whole' st) fun _ => .ite (.refl _) (.failure _ _ _ _)

/-! ## A group of flags -/

/-- The letters of flags that can be switched on. -/
def switches : List Char := ['i', 'm', 's']

/-- The flags with some more of them switched on. -/
def Flags.switchOn (flags : Flags) (letters : List Char) : Flags :=
  { flags with
    foldCase := flags.foldCase || letters.contains 'i'
    multiLine := flags.multiLine || letters.contains 'm'
    dotAll := flags.dotAll || letters.contains 's' }

/-- **Letters up to the closing parenthesis** are switched on. -/
theorem flagLetters_switches (whole rest : List Rune) : ∀ (letters : List Char) (flags : Flags)
    (seen : Bool), (∀ c ∈ letters, c ∈ switches) →
    flagLetters whole flags true seen (letters.map Rune.ofChar ++ Rune.ofChar ')' :: rest) =
      .ok (flags.switchOn letters, false, rest)
  | [], flags, seen, _ => by
    have hon : flags.switchOn [] = flags := by simp [Flags.switchOn]
    rw [hon]
    rfl
  | c :: letters, flags, seen, h => by
    have hletters : ∀ d ∈ letters, d ∈ switches := fun d hd => h d (List.mem_cons_of_mem _ hd)
    have hc := h c List.mem_cons_self
    simp only [switches, List.mem_cons, List.not_mem_nil, or_false] at hc
    rcases hc with rfl | rfl | rfl
    all_goals
      refine (flagLetters_switches whole rest letters _ true hletters).trans ?_
      simp [Flags.switchOn]

theorem steps_skip (whole : List Rune) (st : Progress) : ∀ (skip : Nat) (s : List Rune),
    steps whole skip st s = steps whole 0 st (s.drop skip)
  | 0, _ => rfl
  | _ + 1, [] => rfl
  | skip + 1, _ :: s => steps_skip whole st skip s

/-- The runes of a group of flags. -/
def switchGroup (letters : List Char) : List Rune :=
  ('(' :: '?' :: letters ++ [')']).map Rune.ofChar

/-- **A group of flags** is read at its parenthesis. -/
theorem step_switchGroup (whole rest : List Rune) {letters : List Char} (hne : letters ≠ [])
    (h : ∀ c ∈ letters, c ∈ switches) (st : Progress) :
    step whole st (Rune.ofChar '(') (switchGroup letters ++ rest) =
      .ok ({ st with flags := st.flags.switchOn letters, lastRepeat := none }, rest) := by
  obtain ⟨c, letters, rfl⟩ := List.exists_cons_of_ne_nil hne
  have hread : flagLetters (switchGroup (c :: letters) ++ rest) st.flags true false
      ((switchGroup (c :: letters) ++ rest).drop 2) =
        .ok (st.flags.switchOn (c :: letters), false, rest) := by
    have hdrop : (switchGroup (c :: letters) ++ rest).drop 2 =
        (c :: letters).map Rune.ofChar ++ Rune.ofChar ')' :: rest := by
      simp [switchGroup]
    rw [hdrop, flagLetters_switches _ rest (c :: letters) st.flags false h]
  -- it is not taken for the start of a named group
  have hname : startsWith (switchGroup (c :: letters) ++ rest) "(?P<" = false ∧
      startsWith (switchGroup (c :: letters) ++ rest) "(?<" = false := by
    have hc := h c List.mem_cons_self
    simp only [switches, List.mem_cons, List.not_mem_nil, or_false] at hc
    rcases hc with rfl | rfl | rfl <;> exact ⟨rfl, rfl⟩
  have hextended : step whole st (Rune.ofChar '(') (switchGroup (c :: letters) ++ rest) =
      extendedGroup st (switchGroup (c :: letters) ++ rest) := rfl
  rw [hextended, extendedGroup, hname.1, hname.2, hread]
  rfl

theorem steps_switchGroup (whole rest : List Rune) {letters : List Char} (hne : letters ≠ [])
    (h : ∀ c ∈ letters, c ∈ switches) (st : Progress) :
    steps whole 0 st (switchGroup letters ++ rest) =
      steps whole 0 { st with flags := st.flags.switchOn letters, lastRepeat := none } rest := by
  have hunfold : steps whole 0 st (switchGroup letters ++ rest) =
      step whole st (Rune.ofChar '(') (switchGroup letters ++ rest) >>= fun a =>
        steps whole ((switchGroup letters ++ rest).tail.length - a.2.length) a.1
          (switchGroup letters ++ rest).tail := rfl
  have htail : (switchGroup letters ++ rest).tail =
      ('?' :: letters ++ [')']).map Rune.ofChar ++ rest := rfl
  rw [hunfold, step_switchGroup whole rest hne h, htail]
  simp only [bind, Except.bind]
  -- the rest of the group is what has been read and is skipped
  rw [steps_skip, List.length_append, Nat.add_sub_cancel, List.drop_left]

/-- **A group of flags at the start** of an expression switches them on for the rest of it. -/
theorem parse_inline {letters : List Char} (hne : letters ≠ []) (h : ∀ c ∈ letters, c ∈ switches)
    (body : Bytes) :
    ∃ whole, parse ("(?" ++ Bytes.ofChars letters ++ ")" ++ body) =
      readFrom whole (Flags.switchOn {} letters) body.runes := by
  have hsource :
      (Bytes.ofString "(?" ++ Bytes.ofChars letters ++ Bytes.ofString ")" ++ body : Bytes) =
      Bytes.ofChars ('(' :: '?' :: letters ++ [')']) ++ body := by
    simp [Bytes.ofChars, Bytes.ofString]
  have hrunes : (Bytes.ofChars ('(' :: '?' :: letters ++ [')']) ++ body).runes =
      switchGroup letters ++ body.runes := Bytes.runes_ofChars_append _ body
  refine ⟨switchGroup letters ++ body.runes, ?_⟩
  rw [hsource, parse_eq_readFrom, hrunes, readFrom, steps_switchGroup _ body.runes hne h]
  rfl

end VarLint.Regex
