import VarLint.Stylesheet.Lexer

/-!
# Tokens before a closing brace

How far a token goes is decided by the bytes behind its first one, and some tokens look far: a
string takes everything up to its mark, an escape a whole character. A closing brace stops them, or
they take it, and which of the two it is does not depend on what follows the brace.

* `Settles len f t`: that alternative for a recogniser `f`, where `len` is the length of an answer.
  Recognisers that are built from others inherit it (`Settles.map`, `Settles.behind`,
  `Settles.bind`).
* `IsWalk`: a walk that decides at each byte to stop, or how many bytes to pass. If its decisions
  settle, so does the walk (`IsWalk.settles`): names, strings and addresses are such walks.
* `firstToken_settles`: **the first token settles**, whichever recogniser finds it.
* `tokenAt_opening`: the tokens behind which a statement can start, a closing brace among them.
* `tokens_append`: **behind a closing brace the tokens start anew.**
-/

namespace VarLint.Stylesheet

/-! ## Recognisers before a closing brace -/

/-- Before a closing brace behind `t`, the recogniser `f` stops and has the same answer whatever
follows the brace, or it takes the brace whatever follows. An answer takes `len` bytes. -/
def Settles {α : Type} (len : α → Nat) (f : Bytes → α) (t : Bytes) : Prop :=
  (∃ a, len a ≤ t.length ∧ ∀ rest : Bytes, f (t ++ 0x7D :: rest) = a) ∨
    ∀ rest : Bytes, t.length < len (f (t ++ 0x7D :: rest))

section
variable {α β : Type} {len : α → Nat} {len' : β → Nat} {f : Bytes → α} {F : Bytes → β} {t : Bytes}

/-- A recogniser that never looks behind the brace settles. -/
theorem Settles.of_eq {a : α} (h : ∀ rest : Bytes, f (t ++ 0x7D :: rest) = a) :
    Settles len f t := by
  by_cases hlen : len a ≤ t.length
  · exact .inl ⟨a, hlen, h⟩
  · exact .inr fun rest => by
      rw [h]
      omega

/-- A recogniser that only turns the answer of another one into its own. -/
theorem Settles.map {g : α → β} (h : Settles len f t)
    (hg : ∀ a, t.length < len a → t.length < len' (g a))
    (hF : ∀ rest : Bytes, F (t ++ 0x7D :: rest) = g (f (t ++ 0x7D :: rest))) :
    Settles len' F t := by
  obtain ⟨a, -, hf⟩ | h := h
  · exact .of_eq (a := g a) fun rest => by rw [hF, hf]
  · exact .inr fun rest => by
      rw [hF]
      exact hg _ (h rest)

/-- A recogniser that goes on with another one behind the bytes `p`. -/
theorem Settles.behind {p : Bytes} {g : α → β} (h : Settles len f t)
    (hg : ∀ a, t.length < len a → p.length + t.length < len' (g a))
    (hF : ∀ rest : Bytes, F (p ++ t ++ 0x7D :: rest) = g (f (t ++ 0x7D :: rest))) :
    Settles len' F (p ++ t) := by
  obtain ⟨a, -, hf⟩ | h := h
  · exact .of_eq (a := g a) fun rest => by rw [hF, hf]
  · refine .inr fun rest => ?_
    rw [hF, List.length_append]
    exact hg _ (h rest)

/-- **One recogniser after another.** The second one, which sees the answer of the first one, takes
the brace whenever the first one does. -/
theorem Settles.bind {k : α → Bytes → β} (h : Settles len f t)
    (hlong : ∀ a s, t.length < s.length → t.length < len a → t.length < len' (k a s))
    (hk : ∀ a, len a ≤ t.length → Settles len' (k a) t)
    (hF : ∀ rest : Bytes, F (t ++ 0x7D :: rest) = k (f (t ++ 0x7D :: rest)) (t ++ 0x7D :: rest)) :
    Settles len' F t := by
  obtain ⟨a, ha, hf⟩ | h := h
  · obtain ⟨b, hb, hka⟩ | hka := hk a ha
    · exact .inl ⟨b, hb, fun rest => by rw [hF, hf, hka]⟩
    · exact .inr fun rest => by
        rw [hF, hf]
        exact hka rest
  · exact .inr fun rest => by
      rw [hF]
      exact hlong _ _ (by simp) (h rest)

end

/-! ## The brace as the end of a text -/

theorem takeWhile_stop {p : UInt8 → Bool} (hp : p 0x7D = false) (t rest : Bytes) :
    (t ++ 0x7D :: rest).takeWhile p = t.takeWhile p := by
  induction t with
  | nil => simp [hp]
  | cons b t ih => simp [List.takeWhile_cons, ih]

theorem takeWhile_take_stop {p : UInt8 → Bool} (hp : p 0x7D = false) (n : Nat) (t rest : Bytes) :
    ((t ++ 0x7D :: rest).take n).takeWhile p = (t.take n).takeWhile p := by
  by_cases hn : n ≤ t.length
  · rw [List.take_append_of_le_length hn]
  · obtain ⟨k, hk⟩ : ∃ k, n - t.length = k + 1 := ⟨n - t.length - 1, by omega⟩
    rw [List.take_append, hk, List.take_succ_cons, List.take_of_length_le (by omega),
      takeWhile_stop hp]

theorem drop_stop {t : Bytes} {n : Nat} (h : n ≤ t.length) (rest : Bytes) :
    (t ++ 0x7D :: rest).drop n = t.drop n ++ 0x7D :: rest :=
  List.drop_append_of_le_length h

theorem head?_stop (t rest : Bytes) : (t ++ 0x7D :: rest).head? = some (t.headD 0x7D) := by
  cases t <;> rfl

theorem head?_any_stop {p : UInt8 → Bool} (hp : p 0x7D = false) (t rest : Bytes) :
    (t ++ 0x7D :: rest).head?.any p = t.head?.any p := by
  cases t <;> simp [hp]

theorem head?_beq_stop {b : UInt8} (hb : b ≠ 0x7D) (t rest : Bytes) :
    ((t ++ 0x7D :: rest).head? == some b) = (t.head? == some b) := by
  cases t <;> simp [hb.symm]

theorem isPrefixOf_stop {w : Bytes} (hw : 0x7D ∉ w) (t rest : Bytes) :
    w.isPrefixOf (t ++ 0x7D :: rest) = w.isPrefixOf t := by
  induction w generalizing t with
  | nil => simp
  | cons c w ih =>
    rw [List.mem_cons, not_or] at hw
    cases t with
    | nil => simp [List.isPrefixOf, Ne.symm hw.1]
    | cons b t => simp [List.isPrefixOf, ih hw.2]

theorem length_takeWhile_le (p : UInt8 → Bool) (t : Bytes) : (t.takeWhile p).length ≤ t.length :=
  (List.takeWhile_prefix p).length_le

/-! ## Escapes -/

/-- The number of bytes that an optional answer takes. -/
def taken (found : Option Nat) : Nat := found.getD 0

theorem escape?_settles (t : Bytes) : Settles taken escape? t := by
  rcases t with _ | ⟨b, _ | ⟨c, t⟩⟩
  · refine .of_eq (a := none) fun rest => ?_
    cases rest <;> simp [escape?, backslash]
  · by_cases hb : b = backslash
    · refine .of_eq (a := some 2) fun rest => ?_
      simp [escape?, hb, isNewline, isHex, isDigit]
    · refine .of_eq (a := none) fun rest => ?_
      simp [escape?, hb]
  · by_cases hb : (b != backslash || isNewline c) = true
    · exact .of_eq (a := none) fun rest => by simp only [List.cons_append, escape?, hb, if_true]
    · by_cases hx : isHex c = true
      · -- the digits end before the brace, which is no white space either
        have hlen : ((t.take 5).takeWhile isHex).length ≤ t.length :=
          Nat.le_trans (length_takeWhile_le _ _) (List.length_take_le' 5 t)
        exact .of_eq fun rest => by
          simp only [List.cons_append, escape?, hb, hx, if_true, Bool.false_eq_true, if_false,
            takeWhile_take_stop (show isHex 0x7D = false by decide), drop_stop hlen, head?_stop]
          rfl
      · by_cases hc : c < 0xC0
        · exact .of_eq (a := some 2) fun rest => by simp [escape?, hb, hx, hc]
        · -- a whole character, which may reach beyond the brace
          have hlong : ∀ rest : Bytes, escape? (b :: c :: t ++ 0x7D :: rest) =
              some (1 + min (if c < 0xE0 then 2 else if c < 0xF0 then 3 else 4)
                (1 + (t.length + (rest.length + 1)))) := fun rest => by
            simp [escape?, hb, hx, hc]
          revert hlong
          generalize (if c < 0xE0 then 2 else if c < 0xF0 then 3 else 4) = width
          intro hlong
          by_cases hw : width ≤ t.length + 1
          · exact .of_eq (a := some (1 + width)) fun rest => by
              rw [hlong, Nat.min_eq_left (by omega)]
          · refine .inr fun rest => ?_
            rw [hlong, taken, Option.getD_some, List.length_cons, List.length_cons]
            omega

/-! ## Walks -/

/-- A walk along a text. At each byte `choice` ends it with an answer, or says how many more bytes
are passed before the next choice; `next` adds one byte to an answer. -/
structure IsWalk {α : Type} (len : α → Nat) (next : α → α) (choice : UInt8 → Bytes → α ⊕ Nat)
    (run : Nat → Bytes → α) : Prop where
  len_next : ∀ a, len (next a) = len a + 1
  skip : ∀ k b s, run (k + 1) (b :: s) = next (run k s)
  step : ∀ b s, run 0 (b :: s) = (choice b s).elim id fun k => next (run k s)

section
variable {α : Type} {len : α → Nat} {next : α → α} {choice : UInt8 → Bytes → α ⊕ Nat}
  {run : Nat → Bytes → α}

theorem IsWalk.len_next_lt (h : IsWalk len next choice run) {n : Nat} (a : α) (ha : n < len a) :
    1 + n < len (next a) := by
  rw [h.len_next]
  omega

/-- The bytes that a walk has to pass, as far as there are any, are part of its answer. -/
theorem IsWalk.le_len (h : IsWalk len next choice run) :
    ∀ {m k : Nat} {s : Bytes}, m ≤ k → m ≤ s.length → m ≤ len (run k s)
  | 0, _, _, _, _ => Nat.zero_le _
  | m + 1, k + 1, b :: s, hk, hs => by
    rw [h.skip, h.len_next]
    exact Nat.succ_le_succ (h.le_len (Nat.le_of_succ_le_succ hk) (Nat.le_of_succ_le_succ hs))

/-- **A walk settles if its choices do.** A choice is the same whatever follows the brace, or it
passes the brace. -/
theorem IsWalk.settles (h : IsWalk len next choice run)
    (hbrace : ∃ c, ∀ rest, choice 0x7D rest = c)
    (hchoice : ∀ b t, (∃ c, ∀ rest : Bytes, choice b (t ++ 0x7D :: rest) = c) ∨
      ∀ rest : Bytes, ∃ k, t.length < k ∧ choice b (t ++ 0x7D :: rest) = .inr k) :
    ∀ (t : Bytes) (k : Nat), Settles len (run k) t
  | [], 0 => by
    obtain ⟨a | k, hc⟩ := hbrace
    · exact .of_eq (a := a) fun rest => by simp [h.step, hc]
    · exact .inr fun rest => by simp [h.step, hc, h.len_next]
  | [], k + 1 => .inr fun rest => by simp [h.skip, h.len_next]
  | b :: t, k + 1 =>
    (h.settles hbrace hchoice t k).behind (p := [b]) (g := next)
      (fun a => h.len_next_lt a) fun rest => h.skip k b _
  | b :: t, 0 => by
    obtain ⟨a | k, hc⟩ | hc := hchoice b t
    · exact .of_eq (a := a) fun rest => by simp [h.step, hc]
    · exact (h.settles hbrace hchoice t k).behind (p := [b]) (g := next)
        (fun a => h.len_next_lt a) fun rest => by simp [h.step, hc]
    · -- the bytes that are passed include the brace
      refine .inr fun rest => ?_
      obtain ⟨k, hk, hc⟩ := hc rest
      have hpassed : t.length + 1 ≤ len (run k (t ++ 0x7D :: rest)) := h.le_len hk (by simp)
      rw [List.cons_append, h.step, hc, Sum.elim_inr, h.len_next, List.length_cons]
      omega

/-- At a byte that may start an escape, the choice to pass the escape settles. -/
theorem choice_at_escape {b : UInt8} {t : Bytes}
    (hsome : ∀ s n, escape? (b :: s) = some n → choice b s = .inr (n - 1))
    (hnone : ∃ c, ∀ rest : Bytes, escape? (b :: (t ++ 0x7D :: rest)) = none →
      choice b (t ++ 0x7D :: rest) = c) :
    (∃ c, ∀ rest : Bytes, choice b (t ++ 0x7D :: rest) = c) ∨
      ∀ rest : Bytes, ∃ k, t.length < k ∧ choice b (t ++ 0x7D :: rest) = .inr k := by
  obtain ⟨_ | n, -, he⟩ | he := escape?_settles (b :: t)
  · obtain ⟨c, hc⟩ := hnone
    exact .inl ⟨c, fun rest => hc rest (he rest)⟩
  · exact .inl ⟨.inr (n - 1), fun rest => hsome _ n (he rest)⟩
  · refine .inr fun rest => ?_
    have hlen := he rest
    rw [List.cons_append, List.length_cons] at hlen
    cases hn : escape? (b :: (t ++ 0x7D :: rest)) with
    | none => simp [hn, taken] at hlen
    | some n =>
      rw [hn, taken, Option.getD_some] at hlen
      exact ⟨n - 1, by omega, hsome _ n hn⟩

end

/-- What a walk along a name does at a byte. -/
def nameChoice (b : UInt8) (s : Bytes) : Nat ⊕ Nat :=
  if isName b then .inr 0
  else match escape? (b :: s) with
    | some n => .inr (n - 1)
    | none => .inl 0

theorem nameRun_isWalk : IsWalk id (1 + ·) nameChoice nameRun where
  len_next a := Nat.add_comm 1 a
  skip _ _ _ := rfl
  step b s := by
    rw [nameRun, nameChoice]
    by_cases hb : isName b = true
    · simp [hb]
    · cases h : escape? (b :: s) <;> simp [hb]

theorem nameRun_settles (t : Bytes) (skip : Nat) : Settles id (nameRun skip) t := by
  refine nameRun_isWalk.settles ⟨.inl 0, fun rest => ?_⟩ (fun b t => ?_) t skip
  · cases rest <;> simp [nameChoice, escape?, backslash, isName, isNameStart, isLetter, isDigit]
  · by_cases hb : isName b = true
    · exact .inl ⟨.inr 0, fun rest => by simp [nameChoice, hb]⟩
    · refine choice_at_escape (fun s n h => ?_) ⟨.inl 0, fun rest h => ?_⟩
      · simp [nameChoice, hb, h]
      · simp [nameChoice, hb, h]

/-- What a walk through a string does at a byte. -/
def stringChoice (mark b : UInt8) (s : Bytes) : (Nat × Bool) ⊕ Nat :=
  if isNewline b then .inl (1, true)
  else if b == mark then .inl (1, false)
  else if b != backslash then .inr 0
  else match escape? (b :: s) with
    | some n => .inr (n - 1)
    | none => .inr (newlineLength s)

theorem newlineLength_stop (t rest : Bytes) :
    newlineLength (t ++ 0x7D :: rest) = newlineLength t := by
  rcases t with _ | ⟨b, _ | ⟨c, t⟩⟩
  · simp [newlineLength, isNewline]
  · simp [newlineLength]
  · by_cases h : b = 0x0D ∧ c = 0x0A
    · simp [newlineLength, h]
    · have hfirst : ∀ s, newlineLength (b :: c :: s) = if isNewline b then 1 else 0 := by
        intro s
        unfold newlineLength
        split <;> simp_all
      rw [List.cons_append, List.cons_append, hfirst, hfirst]

theorem stringRun_isWalk (mark : UInt8) :
    IsWalk Prod.fst (fun a => (a.1 + 1, a.2)) (stringChoice mark) (stringRun mark) where
  len_next _ := rfl
  skip _ _ _ := rfl
  step b s := by
    rw [stringRun, stringChoice]
    by_cases hn : isNewline b = true
    · simp [hn]
    · by_cases hm : b = mark
      · subst hm
        simp [hn]
      · by_cases hb : b = backslash
        · subst hb
          cases h : escape? (backslash :: s) <;> simp [hn, hm]
        · simp [hn, hm, hb]

theorem stringRun_settles (mark : UInt8) (t : Bytes) (skip : Nat) :
    Settles Prod.fst (stringRun mark skip) t := by
  refine (stringRun_isWalk mark).settles
    ⟨if 0x7D == mark then .inl (1, false) else .inr 0, fun rest => ?_⟩ (fun b t => ?_) t skip
  · simp [stringChoice, isNewline, backslash]
  · by_cases hn : isNewline b = true
    · exact .inl ⟨.inl (1, true), fun rest => by simp [stringChoice, hn]⟩
    · by_cases hm : b = mark
      · subst hm
        exact .inl ⟨.inl (1, false), fun rest => by simp [stringChoice, hn]⟩
      · by_cases hb : b = backslash
        · subst hb
          refine choice_at_escape (fun s n h => ?_) ⟨.inr (newlineLength t), fun rest h => ?_⟩
          · simp [stringChoice, hn, hm, h]
          · simp [stringChoice, hn, hm, h, newlineLength_stop]
        · exact .inl ⟨.inr 0, fun rest => by simp [stringChoice, hn, hm, hb]⟩

/-- What a walk through an address does at a byte. -/
def urlChoice (b : UInt8) (s : Bytes) : (Nat × Bool) ⊕ Nat :=
  if b == 0x29 then .inl (0, true)
  else if breaksUrl b then
    match escape? (b :: s) with
    | some n => .inr (n - 1)
    | none => .inl (0, false)
  else .inr 0

theorem urlRun_isWalk :
    IsWalk Prod.fst (fun a => (a.1 + 1, a.2)) urlChoice urlRun where
  len_next _ := rfl
  skip _ _ _ := rfl
  step b s := by
    rw [urlRun, urlChoice]
    by_cases hc : b = 0x29
    · simp [hc]
    · by_cases hb : breaksUrl b = true
      · cases h : escape? (b :: s) <;> simp [hc, hb]
      · simp [hc, hb]

theorem urlRun_settles (t : Bytes) (skip : Nat) : Settles Prod.fst (urlRun skip) t := by
  refine urlRun_isWalk.settles ⟨.inr 0, fun rest => ?_⟩ (fun b t => ?_) t skip
  · simp [urlChoice, breaksUrl, backslash]
  · by_cases hc : b = 0x29
    · exact .inl ⟨.inl (0, true), fun rest => by simp [urlChoice, hc]⟩
    · by_cases hb : breaksUrl b = true
      · refine choice_at_escape (fun s n h => ?_) ⟨.inl (0, false), fun rest h => ?_⟩
        · simp [urlChoice, hc, hb, h]
        · simp [urlChoice, hc, hb, h]
      · exact .inl ⟨.inr 0, fun rest => by simp [urlChoice, hc, hb]⟩

/-- What a walk to the end of a bad address does at a byte. -/
def badUrlChoice (b : UInt8) (s : Bytes) : Nat ⊕ Nat :=
  if b == 0x29 then .inl 1
  else match escape? (b :: s) with
    | some n => .inr (n - 1)
    | none => .inr 0

theorem badUrlRun_isWalk : IsWalk id (1 + ·) badUrlChoice badUrlRun where
  len_next a := Nat.add_comm 1 a
  skip _ _ _ := rfl
  step b s := by
    rw [badUrlRun, badUrlChoice]
    by_cases hc : b = 0x29
    · simp [hc]
    · cases h : escape? (b :: s) <;> simp [hc]

theorem badUrlRun_settles (t : Bytes) (skip : Nat) : Settles id (badUrlRun skip) t := by
  refine badUrlRun_isWalk.settles ⟨.inr 0, fun rest => ?_⟩ (fun b t => ?_) t skip
  · cases rest <;> simp [badUrlChoice, escape?, backslash]
  · by_cases hc : b = 0x29
    · exact .inl ⟨.inl 1, fun rest => by simp [badUrlChoice, hc]⟩
    · refine choice_at_escape (fun s n h => ?_) ⟨.inr 0, fun rest h => ?_⟩
      · simp [badUrlChoice, hc, h]
      · simp [badUrlChoice, hc, h]

/-! ## Identifiers -/

theorem plainIdent?_settles : ∀ t : Bytes, Settles taken plainIdent? t
  | [] => .of_eq (a := none) fun rest => by
    cases rest <;> simp [plainIdent?, escape?, isNameStart, isLetter, backslash]
  | b :: t => by
    by_cases hb : isNameStart b = true
    · exact (nameRun_settles t 0).behind (p := [b]) (g := fun n => some (1 + n))
        (fun _ => Nat.add_lt_add_left (k := 1)) fun rest => by simp [plainIdent?, hb]
    · -- an escape that takes the brace makes the name take it as well
      refine (escape?_settles (b :: t)).bind (k := fun found s => found.map fun n => nameRun n s)
        ?_ ?_ fun rest => by simp [plainIdent?, hb]
      · rintro (_ | n) s hs hn
        · exact absurd hn (Nat.not_lt_zero _)
        · exact nameRun_isWalk.le_len hn hs
      · rintro (_ | n) -
        · exact .of_eq (a := none) fun _ => rfl
        · exact (nameRun_settles (b :: t) n).map (g := some) (fun _ => id) fun _ => rfl

theorem ident?_hyphen {s : Bytes} (h : s.head? ≠ some 0x2D) :
    ident? (0x2D :: s) = (plainIdent? s).map (1 + ·) := by
  unfold ident?
  split <;> simp_all

theorem ident?_plain {s : Bytes} (h : s.head? ≠ some 0x2D) : ident? s = plainIdent? s := by
  unfold ident?
  split <;> simp_all

theorem ident?_settles (t : Bytes) : Settles taken ident? t := by
  rcases t with _ | ⟨b, t⟩
  · exact (plainIdent?_settles []).map (g := id) (fun _ => id) fun _ => rfl
  · by_cases hb : b = 0x2D
    · subst hb
      by_cases ht : t.head? = some 0x2D
      · obtain ⟨s, rfl⟩ := List.head?_eq_some_iff.mp ht
        exact (nameRun_settles s 0).behind (p := [0x2D, 0x2D]) (g := fun n => some (2 + n))
          (fun _ => Nat.add_lt_add_left (k := 2)) fun _ => rfl
      · have hne : ∀ rest : Bytes, (t ++ 0x7D :: rest).head? ≠ some 0x2D := by
          intro rest h
          rw [head?_stop] at h
          cases t <;> simp_all
        refine (plainIdent?_settles t).behind (p := [0x2D]) (g := Option.map (1 + ·)) ?_
          fun rest => ident?_hyphen (hne rest)
        rintro (_ | n) hn
        · exact absurd hn (Nat.not_lt_zero _)
        · exact Nat.add_lt_add_left (k := 1) hn
    · exact (plainIdent?_settles (b :: t)).map (g := id) (fun _ => id) fun rest =>
        ident?_plain (by simpa using hb)

/-! ## Numbers, ranges and comments -/

theorem digitRun_stop (t rest : Bytes) : digitRun (t ++ 0x7D :: rest) = digitRun t := by
  rw [digitRun, takeWhile_stop (by decide), digitRun]

theorem digitRun_le (t : Bytes) : digitRun t ≤ t.length := length_takeWhile_le _ _

theorem spaceRun_stop (t rest : Bytes) : spaceRun (t ++ 0x7D :: rest) = spaceRun t := by
  rw [spaceRun, takeWhile_stop (by decide), spaceRun]

theorem spaceRun_le (t : Bytes) : spaceRun t ≤ t.length := length_takeWhile_le _ _

theorem sign_le (p : UInt8 → Bool) (t : Bytes) : (if t.head?.any p then 1 else 0) ≤ t.length := by
  cases t with
  | nil => simp
  | cons b t => split <;> simp

theorem exponent_stop (t rest : Bytes) : exponent (t ++ 0x7D :: rest) = exponent t := by
  cases t with
  | nil => simp [exponent]
  | cons e t =>
    simp only [exponent, List.cons_append]
    rw [head?_any_stop (by decide), drop_stop (sign_le _ t), digitRun_stop]

theorem exponent_le (t : Bytes) : exponent t ≤ t.length := by
  cases t with
  | nil => simp [exponent]
  | cons e t =>
    simp only [exponent, List.length_cons]
    have hsign := sign_le (fun b => b == 0x2B || b == 0x2D) t
    revert hsign
    generalize (if t.head?.any (fun b => b == 0x2B || b == 0x2D) then 1 else 0) = sign
    intro hsign
    have hdigits := digitRun_le (t.drop sign)
    rw [List.length_drop] at hdigits
    split
    · split <;> omega
    · omega

/-- A number behind its sign. -/
def numberAfter (sign : Nat) (s : Bytes) : Option Nat :=
  let whole := digitRun (s.drop sign)
  let afterWhole := (s.drop sign).drop whole
  if afterWhole.head? == some 0x2E then
    let fraction := digitRun (afterWhole.drop 1)
    if fraction = 0 then (if whole = 0 then none else some (sign + whole))
    else
      let length := sign + whole + 1 + fraction
      some (length + exponent (s.drop length))
  else if whole = 0 then none
  else some (sign + whole + exponent afterWhole)

theorem number?_eq (s : Bytes) : number? s =
    numberAfter (if s.head?.any (fun b => b == 0x2B || b == 0x2D) then 1 else 0) s := rfl

theorem length_of_head? {b : UInt8} {t : Bytes} (h : (t.head? == some b) = true) :
    1 ≤ t.length := by
  cases t with
  | nil => simp at h
  | cons c t => simp

theorem numberAfter_stop {sign : Nat} {t : Bytes} (hsign : sign ≤ t.length) (rest : Bytes) :
    numberAfter sign (t ++ 0x7D :: rest) = numberAfter sign t := by
  have hwhole := digitRun_le (t.drop sign)
  simp only [numberAfter, drop_stop hsign, digitRun_stop, drop_stop hwhole,
    head?_beq_stop (show (0x2E : UInt8) ≠ 0x7D by decide), exponent_stop]
  split
  next hpoint =>
    have hone := length_of_head? hpoint
    rw [drop_stop hone, digitRun_stop]
    have hfraction := digitRun_le (((t.drop sign).drop (digitRun (t.drop sign))).drop 1)
    simp only [List.length_drop] at hone hfraction hwhole
    rw [drop_stop (by omega), exponent_stop]
  next => rfl

theorem numberAfter_le {sign : Nat} {t : Bytes} (hsign : sign ≤ t.length) {n : Nat}
    (h : numberAfter sign t = some n) : n ≤ t.length := by
  have hwhole := digitRun_le (t.drop sign)
  simp only [numberAfter] at h
  split at h
  next hpoint =>
    have hone := length_of_head? hpoint
    have hfraction := digitRun_le (((t.drop sign).drop (digitRun (t.drop sign))).drop 1)
    have hexponent := exponent_le (t.drop (sign + digitRun (t.drop sign) + 1 +
      digitRun (((t.drop sign).drop (digitRun (t.drop sign))).drop 1)))
    simp only [List.length_drop] at hone hfraction hwhole hexponent
    grind
  next =>
    have hexponent := exponent_le ((t.drop sign).drop (digitRun (t.drop sign)))
    simp only [List.length_drop] at hwhole hexponent
    grind

theorem number?_stop (t rest : Bytes) : number? (t ++ 0x7D :: rest) = number? t := by
  rw [number?_eq, number?_eq, head?_any_stop (by decide), numberAfter_stop (sign_le _ t)]

theorem number?_le {t : Bytes} {n : Nat} (h : number? t = some n) : n ≤ t.length :=
  numberAfter_le (sign_le _ t) h

theorem numeric?_settles (t : Bytes) : Settles taken numeric? t := by
  cases hn : number? t with
  | none => exact .of_eq (a := none) fun rest => by simp [numeric?, number?_stop, hn]
  | some n =>
    have hle := number?_le hn
    have hdrop : ∀ rest : Bytes, numeric? (t ++ 0x7D :: rest) =
        some (if (t.drop n).head? == some 0x25 then n + 1
          else n + taken (ident? (t.drop n ++ 0x7D :: rest))) := by
      intro rest
      simp only [numeric?, number?_stop, hn, Option.map_some, drop_stop hle,
        head?_beq_stop (show (0x25 : UInt8) ≠ 0x7D by decide)]
      split
      · rfl
      · cases ident? (t.drop n ++ 0x7D :: rest) <;> rfl
    by_cases hpercent : ((t.drop n).head? == some 0x25) = true
    · exact .of_eq (a := some (n + 1)) fun rest => by rw [hdrop, if_pos hpercent]
    · have hunit : Settles taken numeric? (t.take n ++ t.drop n) := by
        refine (ident?_settles (t.drop n)).behind (g := fun found => some (n + taken found))
          (fun found h => ?_) fun rest => by rw [List.take_append_drop, hdrop, if_neg hpercent]
        simp only [List.length_take, taken, Option.getD_some] at h ⊢
        omega
      rwa [List.take_append_drop] at hunit

theorem commentRun_settles : ∀ t : Bytes, Settles id commentRun t
  | [] => .inr fun rest => by
    show 0 < commentRun (0x7D :: rest)
    unfold commentRun
    split <;> omega
  | b :: t => by
    have hslash : (0x2F : UInt8) ≠ 0x7D := by decide
    by_cases h : (b == 0x2A && t.head? == some 0x2F) = true
    · exact .of_eq (a := 2) fun rest => by
        simp only [List.cons_append, commentRun, head?_beq_stop hslash, h, if_true]
    · exact (commentRun_settles t).behind (p := [b]) (g := (1 + ·))
        (fun _ => Nat.add_lt_add_left (k := 1)) fun rest => by
          simp only [List.cons_append, List.nil_append, commentRun, head?_beq_stop hslash, h,
            if_false, Bool.false_eq_true]

theorem unicodeRange?_stop (b : UInt8) (t rest : Bytes) :
    unicodeRange? (b :: (t ++ 0x7D :: rest)) = unicodeRange? (b :: t) := by
  cases t with
  | nil => simp [unicodeRange?]
  | cons plus t =>
    have hhex : isHex 0x7D = false := by decide
    simp only [unicodeRange?, List.cons_append, takeWhile_stop hhex,
      drop_stop (length_takeWhile_le isHex t)]
    cases t.drop (t.takeWhile isHex).length with
    | nil => simp
    | cons c t' =>
      simp only [List.cons_append, takeWhile_stop hhex]
      rw [← List.cons_append, takeWhile_stop (by decide)]

/-! ## Addresses -/

/-- An address that is given up after `n` bytes. -/
def badAddress (n : Nat) (s : Bytes) : TokenKind × Nat := (.badUrl, n + badUrlRun 0 (s.drop n))

/-- An address whose text is `n` bytes long. -/
def closedAddress (n : Nat) (s : Bytes) : TokenKind × Nat :=
  match s.drop (n + spaceRun (s.drop n)) with
  | [] => (.url, n + spaceRun (s.drop n))
  | b :: _ =>
    if b == 0x29 then (.url, n + spaceRun (s.drop n) + 1)
    else badAddress (n + spaceRun (s.drop n)) s

/-- The length of the text of an address with the white space before it, and whether a closing
parenthesis is looked for behind it. -/
def addressText (s : Bytes) : Nat × Bool :=
  match s.drop (spaceRun s) with
  | [] => (spaceRun s, true)
  | mark :: quoted =>
    if mark == 0x22 || mark == 0x27 then
      (spaceRun s + 1 + (stringRun mark 0 quoted).1, !(stringRun mark 0 quoted).2)
    else
      (spaceRun s + (urlRun 0 (mark :: quoted)).1, (urlRun 0 (mark :: quoted)).2 ||
        (s.drop (spaceRun s + (urlRun 0 (mark :: quoted)).1)).head?.any isSpace)

theorem address_eq (s : Bytes) : address s =
    if (addressText s).2 then closedAddress (addressText s).1 s
    else badAddress (addressText s).1 s := by
  cases hs : s.drop (spaceRun s) with
  | nil =>
    simp only [address, addressText, closedAddress, hs, if_true]
    rfl
  | cons mark quoted =>
    by_cases hmark : (mark == 0x22 || mark == 0x27) = true
    · simp only [address, addressText, hs, hmark, if_true]
      cases (stringRun mark 0 quoted).2 <;> rfl
    · simp only [address, addressText, hs, hmark, Bool.false_eq_true, if_false]
      rfl

theorem le_badAddress (n : Nat) (s : Bytes) : n ≤ (badAddress n s).2 := Nat.le_add_right _ _

theorem le_closedAddress (n : Nat) (s : Bytes) : n ≤ (closedAddress n s).2 := by
  unfold closedAddress
  split
  · simp
  · split
    · simp; omega
    · exact Nat.le_trans (Nat.le_add_right _ _) (le_badAddress _ _)

theorem badAddress_settles {n : Nat} {t : Bytes} (hn : n ≤ t.length) :
    Settles Prod.snd (badAddress n) t := by
  have hbad : Settles Prod.snd (badAddress n) (t.take n ++ t.drop n) := by
    refine (badUrlRun_settles (t.drop n) 0).behind (g := fun m => (.badUrl, n + m)) (fun m h => ?_)
      fun rest => by rw [List.take_append_drop, badAddress, drop_stop hn]
    rw [List.length_take, Nat.min_eq_left hn]
    exact Nat.add_lt_add_left h n
  rwa [List.take_append_drop] at hbad

theorem closedAddress_settles {n : Nat} {t : Bytes} (hn : n ≤ t.length) :
    Settles Prod.snd (closedAddress n) t := by
  have hspace := spaceRun_le (t.drop n)
  rw [List.length_drop] at hspace
  have hle : n + spaceRun (t.drop n) ≤ t.length := by omega
  cases ht : t.drop (n + spaceRun (t.drop n)) with
  | nil =>
    exact (badAddress_settles hle).map (g := id) (fun _ => id) fun rest => by
      simp [closedAddress, drop_stop hn, spaceRun_stop, drop_stop hle, ht]
  | cons b t' =>
    by_cases hb : b = 0x29
    · exact .of_eq (a := (.url, n + spaceRun (t.drop n) + 1)) fun rest => by
        simp [closedAddress, drop_stop hn, spaceRun_stop, drop_stop hle, ht, hb]
    · exact (badAddress_settles hle).map (g := id) (fun _ => id) fun rest => by
        simp [closedAddress, drop_stop hn, spaceRun_stop, drop_stop hle, ht, hb]

theorem addressText_settles (t : Bytes) : Settles Prod.fst addressText t := by
  have hstart := spaceRun_le t
  cases ht : t.drop (spaceRun t) with
  | nil =>
    -- only white space stands before the brace, which is then part of the text
    refine .inr fun rest => ?_
    have hlen : t.length ≤ spaceRun t := List.drop_eq_nil_iff.mp ht
    simp [addressText, spaceRun_stop, drop_stop hstart, ht, urlRun, breaksUrl, backslash]
    omega
  | cons mark quoted =>
    have hlen : t.length = spaceRun t + 1 + quoted.length := by
      have := congrArg List.length ht
      simp only [List.length_drop, List.length_cons] at this
      omega
    by_cases hmark : (mark == 0x22 || mark == 0x27) = true
    · have heq : ∀ rest : Bytes, addressText (t ++ 0x7D :: rest) =
          (spaceRun t + 1 + (stringRun mark 0 (quoted ++ 0x7D :: rest)).1,
            !(stringRun mark 0 (quoted ++ 0x7D :: rest)).2) := fun rest => by
        simp only [addressText, spaceRun_stop, drop_stop hstart, ht, List.cons_append, hmark,
          if_true]
      obtain ⟨a, -, h⟩ | h := stringRun_settles mark quoted 0
      · exact .of_eq fun rest => by rw [heq, h]
      · refine .inr fun rest => ?_
        have := h rest
        rw [heq]
        omega
    · have heq : ∀ rest : Bytes, addressText (t ++ 0x7D :: rest) =
          (spaceRun t + (urlRun 0 (mark :: quoted ++ 0x7D :: rest)).1,
            (urlRun 0 (mark :: quoted ++ 0x7D :: rest)).2 ||
              ((t ++ 0x7D :: rest).drop
                (spaceRun t + (urlRun 0 (mark :: quoted ++ 0x7D :: rest)).1)).head?.any isSpace) :=
        fun rest => by
          simp only [addressText, spaceRun_stop, drop_stop hstart, ht, List.cons_append, hmark,
            Bool.false_eq_true, if_false]
      obtain ⟨a, ha, h⟩ | h := urlRun_settles (mark :: quoted) 0
      · rw [List.length_cons] at ha
        exact .of_eq fun rest => by
          rw [heq, h, drop_stop (by omega), head?_any_stop (by decide)]
      · refine .inr fun rest => ?_
        have := h rest
        rw [List.length_cons] at this
        rw [heq]
        omega

theorem address_settles (t : Bytes) : Settles Prod.snd address t := by
  refine (addressText_settles t).bind
    (k := fun a s => if a.2 then closedAddress a.1 s else badAddress a.1 s) ?_ ?_ fun rest =>
      address_eq _
  · rintro ⟨n, closed⟩ s - hn
    cases closed with
    | true => exact Nat.lt_of_lt_of_le hn (le_closedAddress n s)
    | false => exact Nat.lt_of_lt_of_le hn (le_badAddress n s)
  · rintro ⟨n, closed⟩ hn
    cases closed with
    | true => exact closedAddress_settles hn
    | false => exact badAddress_settles hn

/-! ## Tokens -/

/-- The number of bytes of an optional token. -/
def span (found : Option (TokenKind × Nat)) : Nat := (found.map Prod.snd).getD 0

/-- What follows an identifier of `n` bytes. -/
def identToken (n : Nat) (s : Bytes) : TokenKind × Nat :=
  match s.drop n with
  | b :: rest =>
    if b != 0x28 then (.ident, n)
    else if Bytes.lowerAscii ((s.take n).filter (· != backslash)) == "url" then
      ((address rest).1, n + 1 + (address rest).2)
    else (.function, n + 1)
  | [] => (.ident, n)

theorem identLike?_eq (s : Bytes) : identLike? s = (ident? s).map (identToken · s) := rfl

theorem le_identToken (n : Nat) (s : Bytes) : n ≤ (identToken n s).2 := by
  unfold identToken
  split
  · split
    · exact Nat.le_refl n
    · split <;> simp <;> omega
  · exact Nat.le_refl n

theorem identToken_settles {n : Nat} {t : Bytes} (hn : n ≤ t.length) :
    Settles Prod.snd (identToken n) t := by
  cases ht : t.drop n with
  | nil => exact .of_eq (a := (.ident, n)) fun rest => by simp [identToken, drop_stop hn, ht]
  | cons b s =>
    have hlen : t.length = n + 1 + s.length := by
      have := congrArg List.length ht
      simp only [List.length_drop, List.length_cons] at this
      omega
    have heq : ∀ rest : Bytes, identToken n (t ++ 0x7D :: rest) =
        if b != 0x28 then (.ident, n)
        else if Bytes.lowerAscii ((t.take n).filter (· != backslash)) == "url" then
          ((address (s ++ 0x7D :: rest)).1, n + 1 + (address (s ++ 0x7D :: rest)).2)
        else (.function, n + 1) := fun rest => by
      simp only [identToken, drop_stop hn, ht, List.cons_append, List.take_append_of_le_length hn]
    by_cases hb : (b != 0x28) = true
    · exact .of_eq (a := (.ident, n)) fun rest => by rw [heq, if_pos hb]
    · by_cases hurl : (Bytes.lowerAscii ((t.take n).filter (· != backslash)) == "url") = true
      · obtain ⟨a, -, h⟩ | h := address_settles s
        · exact .of_eq fun rest => by rw [heq, if_neg hb, if_pos hurl, h]
        · refine .inr fun rest => ?_
          have := h rest
          rw [heq, if_neg hb, if_pos hurl]
          omega
      · exact .of_eq (a := (.function, n + 1)) fun rest => by rw [heq, if_neg hb, if_neg hurl]

theorem identLike?_settles (t : Bytes) : Settles span identLike? t := by
  refine (ident?_settles t).bind (k := fun found s => found.map (identToken · s)) ?_ ?_ fun rest =>
    identLike?_eq _
  · rintro (_ | n) s - hn
    · exact absurd hn (Nat.not_lt_zero _)
    · exact Nat.lt_of_lt_of_le hn (le_identToken n s)
  · rintro (_ | n) hn
    · exact .of_eq (a := none) fun _ => rfl
    · exact (identToken_settles hn).map (g := some) (fun _ => id) fun _ => rfl

theorem Settles.orDelim {f : Bytes → Option (TokenKind × Nat)} {t : Bytes}
    (h : Settles span f t) : Settles Prod.snd (fun s => orDelim (f s)) t := by
  refine h.map (g := VarLint.Stylesheet.orDelim) ?_ fun _ => rfl
  rintro (_ | a) ha
  · exact absurd ha (Nat.not_lt_zero _)
  · exact ha

theorem Settles.orElse {f g : Bytes → Option (TokenKind × Nat)} {t : Bytes}
    (hf : Settles span f t) (hg : Settles span g t) :
    Settles span (fun s => (f s).orElse fun _ => g s) t := by
  refine hf.bind (k := fun found s => found.orElse fun _ => g s) ?_ ?_ fun _ => rfl
  · rintro (_ | a) s - ha
    · exact absurd ha (Nat.not_lt_zero _)
    · exact ha
  · rintro (_ | a) -
    · exact hg
    · exact .of_eq (a := some a) fun _ => rfl

theorem number_settles (t : Bytes) :
    Settles span (fun s => (numeric? s).map fun n => (TokenKind.number, n)) t := by
  refine (numeric?_settles t).map (g := Option.map fun n => (TokenKind.number, n)) ?_ fun _ => rfl
  rintro (_ | n) hn
  · exact absurd hn (Nat.not_lt_zero _)
  · exact hn

/-- The first token of a text. -/
def firstToken : Bytes → TokenKind × Nat
  | [] => (.whitespace, 0)
  | b :: s => tokenAt b s

/-- The punctuation marks that are tokens of their own. -/
def punctuation : Char → Option TokenKind
  | ':' => some .colon
  | ';' => some .semicolon
  | ',' => some .comma
  | '(' => some .leftParen
  | ')' => some .rightParen
  | '[' => some .leftBracket
  | ']' => some .rightBracket
  | '\x7b' => some .leftBrace
  | '\x7d' => some .rightBrace
  | _ => none

/-- The characters that stand alone or start one of a few fixed texts. -/
def fixedStarts : List Char := ['$', '*', '^', '~', '|', '<']

/-- The other characters that have a rule of their own. -/
def ruledStarts : List Char := ['#', '"', '\'', '.', '+', '-', '@', '/', 'u', 'U']

/-- A byte is known by its character; the token at a known byte is computed. -/
theorem byte_of_char {b : UInt8} {c : Char} (h : Char.ofNat b.toNat = c) :
    b = UInt8.ofNat c.toNat := by
  have hlt := b.toNat_lt
  have hvalid : b.toNat.isValidChar := .inl (by omega)
  rw [Char.ofNat, dif_pos hvalid] at h
  subst h
  exact UInt8.ofNat_toNat.symm

section
variable {b : UInt8} (hs : isSpace b = false)
include hs

theorem tokenAt_punctuation {k : TokenKind} (hc : punctuation (Char.ofNat b.toNat) = some k)
    (s : Bytes) : tokenAt b s = (k, 1) := by
  unfold punctuation at hc
  split at hc <;> simp_all [tokenAt]

theorem tokenAt_other (hp : punctuation (Char.ofNat b.toNat) = none)
    (hf : Char.ofNat b.toNat ∉ fixedStarts) (hr : Char.ofNat b.toNat ∉ ruledStarts) (s : Bytes) :
    tokenAt b s = orDelim (((numeric? (b :: s)).map fun n => (TokenKind.number, n)).orElse fun _ =>
      identLike? (b :: s)) := by
  simp only [tokenAt, hs, Bool.false_eq_true, if_false]
  split <;> simp_all [punctuation, fixedStarts, ruledStarts]

theorem settles_fixed (hc : Char.ofNat b.toNat ∈ fixedStarts) (t : Bytes) :
    Settles Prod.snd firstToken (b :: t) := by
  refine .of_eq (a := tokenAt b t) fun rest => ?_
  simp only [fixedStarts, List.mem_cons, List.not_mem_nil, or_false] at hc
  rcases hc with hc | hc | hc | hc | hc | hc <;>
    simp only [List.cons_append, firstToken, tokenAt, hs, hc, Bool.false_eq_true, if_false,
      head?_beq_stop (show (0x3D : UInt8) ≠ 0x7D by decide),
      head?_beq_stop (show (0x7C : UInt8) ≠ 0x7D by decide),
      isPrefixOf_stop (show 0x7D ∉ Bytes.ofString "!--" by decide)]

end

section
variable {b : UInt8}

theorem settles_hash (hc : Char.ofNat b.toNat = '#') (t : Bytes) :
    Settles Prod.snd firstToken (b :: t) := by
  refine (nameRun_settles t 0).behind (p := [b])
    (g := fun n => if n = 0 then (.delim, 1) else (.hash, 1 + n)) (fun n hn => ?_)
    fun rest => by rw [byte_of_char hc]; rfl
  have hpos : n ≠ 0 := Nat.ne_of_gt (Nat.zero_lt_of_lt hn)
  rw [if_neg hpos]
  exact Nat.add_lt_add_left (k := 1) hn

theorem settles_string (hc : Char.ofNat b.toNat = '"' ∨ Char.ofNat b.toNat = '\'') (t : Bytes) :
    Settles Prod.snd firstToken (b :: t) := by
  refine (stringRun_settles b t 0).behind (p := [b])
    (g := fun a => (if a.2 then .badString else .string, 1 + a.1))
    (fun _ => Nat.add_lt_add_left (k := 1)) fun rest => ?_
  rcases hc with hc | hc <;> rw [byte_of_char hc] <;> rfl

theorem settles_number (hc : Char.ofNat b.toNat = '.' ∨ Char.ofNat b.toNat = '+') (t : Bytes) :
    Settles Prod.snd firstToken (b :: t) := by
  refine (number_settles (b :: t)).orDelim.map (g := id) (fun _ => id) fun rest => ?_
  rcases hc with hc | hc <;> rw [byte_of_char hc] <;> rfl

theorem settles_hyphen (hc : Char.ofNat b.toNat = '-') (t : Bytes) :
    Settles Prod.snd firstToken (b :: t) := by
  have heq : ∀ rest : Bytes, firstToken (b :: t ++ 0x7D :: rest) =
      if (Bytes.ofString "->").isPrefixOf t then (.commentClose, 3)
      else if t.head? == some 0x2D then (.customName, 2 + nameRun 0 ((t ++ 0x7D :: rest).drop 1))
      else orDelim ((identLike? (b :: t ++ 0x7D :: rest)).orElse fun _ =>
        (numeric? (b :: t ++ 0x7D :: rest)).map fun n => (TokenKind.number, n)) := fun rest => by
    rw [← isPrefixOf_stop (show 0x7D ∉ Bytes.ofString "->" by decide) t rest,
      ← head?_beq_stop (show (0x2D : UInt8) ≠ 0x7D by decide) t rest, byte_of_char hc]
    rfl
  by_cases hclose : (Bytes.ofString "->").isPrefixOf t = true
  · exact .of_eq (a := (.commentClose, 3)) fun rest => by rw [heq, if_pos hclose]
  by_cases ht : (t.head? == some 0x2D) = true
  · obtain ⟨s, rfl⟩ := List.head?_eq_some_iff.mp (eq_of_beq ht)
    exact (nameRun_settles s 0).behind (p := [b, 0x2D]) (g := fun n => (.customName, 2 + n))
      (fun _ => Nat.add_lt_add_left (k := 2)) fun rest => by
        refine (heq rest).trans ?_
        rw [if_neg hclose, if_pos ht]
        rfl
  · exact ((identLike?_settles (b :: t)).orElse (number_settles (b :: t))).orDelim.map (g := id)
      (fun _ => id) fun rest => by
        rw [heq, if_neg hclose, if_neg ht]
        rfl

theorem settles_atKeyword (hc : Char.ofNat b.toNat = '@') (t : Bytes) :
    Settles Prod.snd firstToken (b :: t) := by
  refine (ident?_settles t).behind (p := [b])
    (g := fun found => orDelim (found.map fun n => (.atKeyword, 1 + n))) ?_ fun rest => by
      rw [byte_of_char hc]
      rfl
  rintro (_ | n) hn
  · exact absurd hn (Nat.not_lt_zero _)
  · exact Nat.add_lt_add_left (k := 1) hn

theorem settles_comment (hc : Char.ofNat b.toNat = '/') (t : Bytes) :
    Settles Prod.snd firstToken (b :: t) := by
  have heq : ∀ rest : Bytes, firstToken (b :: t ++ 0x7D :: rest) =
      if t.head? == some 0x2A then (.comment, 2 + commentRun ((t ++ 0x7D :: rest).drop 1))
      else (.delim, 1) := fun rest => by
    rw [← head?_beq_stop (show (0x2A : UInt8) ≠ 0x7D by decide) t rest, byte_of_char hc]
    rfl
  by_cases ht : (t.head? == some 0x2A) = true
  · obtain ⟨s, rfl⟩ := List.head?_eq_some_iff.mp (eq_of_beq ht)
    exact (commentRun_settles s).behind (p := [b, 0x2A]) (g := fun n => (.comment, 2 + n))
      (fun _ => Nat.add_lt_add_left (k := 2)) fun rest => by
        refine (heq rest).trans ?_
        rw [if_pos ht]
        rfl
  · exact .of_eq (a := (.delim, 1)) fun rest => by rw [heq, if_neg ht]

theorem settles_unicodeRange (hc : Char.ofNat b.toNat = 'u' ∨ Char.ofNat b.toNat = 'U')
    (t : Bytes) : Settles Prod.snd firstToken (b :: t) := by
  have heq : ∀ rest : Bytes, firstToken (b :: t ++ 0x7D :: rest) =
      (unicodeRange? (b :: t)).elim (orDelim (identLike? (b :: t ++ 0x7D :: rest)))
        fun n => (.unicodeRange, n) := fun rest => by
    have hmatch : firstToken (b :: t ++ 0x7D :: rest) =
        match unicodeRange? (b :: (t ++ 0x7D :: rest)) with
        | some n => (.unicodeRange, n)
        | none => orDelim (identLike? (b :: t ++ 0x7D :: rest)) := by
      rcases hc with hc | hc <;> rw [byte_of_char hc] <;> rfl
    rw [hmatch, unicodeRange?_stop]
    cases unicodeRange? (b :: t) <;> rfl
  cases hu : unicodeRange? (b :: t) with
  | some n =>
    exact .of_eq (a := (.unicodeRange, n)) fun rest => by
      rw [heq, hu]
      rfl
  | none =>
    exact (identLike?_settles (b :: t)).orDelim.map (g := id) (fun _ => id) fun rest => by
      rw [heq, hu]
      rfl

end

/-- **The first token settles**: a closing brace stops it or is part of it, whatever follows. -/
theorem firstToken_settles (t : Bytes) : Settles Prod.snd firstToken t := by
  rcases t with _ | ⟨b, t⟩
  · exact .of_eq (a := (.rightBrace, 1)) fun _ => rfl
  by_cases hs : isSpace b = true
  · exact .of_eq (a := (.whitespace, 1 + spaceRun t)) fun rest => by
      simp [firstToken, tokenAt, hs, spaceRun_stop]
  rw [Bool.not_eq_true] at hs
  cases hp : punctuation (Char.ofNat b.toNat) with
  | some k => exact .of_eq (a := (k, 1)) fun rest => tokenAt_punctuation hs hp _
  | none =>
    by_cases hf : Char.ofNat b.toNat ∈ fixedStarts
    · exact settles_fixed hs hf t
    by_cases hr : Char.ofNat b.toNat ∈ ruledStarts
    · simp only [ruledStarts, List.mem_cons, List.not_mem_nil, or_false] at hr
      rcases hr with hc | hc | hc | hc | hc | hc | hc | hc | hc | hc
      · exact settles_hash hc t
      · exact settles_string (.inl hc) t
      · exact settles_string (.inr hc) t
      · exact settles_number (.inl hc) t
      · exact settles_number (.inr hc) t
      · exact settles_hyphen hc t
      · exact settles_atKeyword hc t
      · exact settles_comment hc t
      · exact settles_unicodeRange (.inl hc) t
      · exact settles_unicodeRange (.inr hc) t
    · exact ((number_settles (b :: t)).orElse (identLike?_settles (b :: t))).orDelim.map (g := id)
        (fun _ => id) fun rest => tokenAt_other hs hp hf hr _

/-! ## Streams -/

/-- Whether a statement may start right behind a token of this class: it is a blank, a comment, or
ends a statement. -/
def isOpening : TokenKind → Bool
  | .whitespace | .comment | .leftBrace | .rightBrace | .semicolon => true
  | _ => false

/-- No answer is of a class that opens statements. -/
def NoOpening (found : Option (TokenKind × Nat)) : Prop :=
  ∀ a, found = some a → isOpening a.1 = false

theorem NoOpening.map (found : Option Nat) {k : TokenKind} (hk : isOpening k = false)
    (f : Nat → Nat) :
    NoOpening (found.map fun n => (k, f n)) := by
  intro a ha
  obtain ⟨n, -, rfl⟩ := Option.map_eq_some_iff.mp ha
  exact hk

theorem NoOpening.orElse {found other : Option (TokenKind × Nat)} (hf : NoOpening found)
    (ho : NoOpening other) : NoOpening (found.orElse fun _ => other) := by
  cases found with
  | none => exact ho
  | some a => exact hf

theorem NoOpening.orDelim {found : Option (TokenKind × Nat)} (h : NoOpening found) :
    isOpening (orDelim found).1 = false := by
  cases found with
  | none => rfl
  | some a => exact h a rfl

theorem address_kind (s : Bytes) : isOpening (address s).1 = false := by
  rw [address_eq, closedAddress, badAddress, badAddress]
  repeat' split
  all_goals rfl

theorem noOpening_identLike? (s : Bytes) : NoOpening (identLike? s) := by
  intro a h
  rw [identLike?_eq] at h
  obtain ⟨n, -, rfl⟩ := Option.map_eq_some_iff.mp h
  unfold identToken
  repeat' split
  all_goals first | exact address_kind _ | rfl

theorem not_opening_of_start {b : UInt8} (hs : isSpace b = false)
    (hp : punctuation (Char.ofNat b.toNat) = none) (hc : Char.ofNat b.toNat ≠ '/') (s : Bytes) :
    isOpening (tokenAt b s).1 = false := by
  have hnumber : NoOpening ((numeric? (b :: s)).map fun n => (TokenKind.number, n)) := .map _ rfl _
  have hident := noOpening_identLike? (b :: s)
  have hat : NoOpening ((ident? s).map fun n => (TokenKind.atKeyword, 1 + n)) := .map _ rfl _
  have hmatcher :
      NoOpening (if s.head? == some 0x3D then some (TokenKind.matcher, 2) else none) := by
    intro a ha
    split at ha
    · cases ha
      rfl
    · cases ha
  simp only [tokenAt, hs, Bool.false_eq_true, if_false]
  repeat' split
  all_goals first
    | rfl
    | contradiction
    | exact NoOpening.orDelim (by assumption)
    | exact (hident.orElse hnumber).orDelim
    | exact (hnumber.orElse hident).orDelim
    | simp_all [punctuation]

/-- **The tokens behind which statements start**: blanks, comments and punctuation marks. -/
theorem tokenAt_opening {b : UInt8} {s : Bytes} (h : isOpening (tokenAt b s).1 = true) :
    isSpace b = true ∧ tokenAt b s = (.whitespace, 1 + spaceRun s) ∨
      b = 0x2F ∧ s.head? = some 0x2A ∧ tokenAt b s = (.comment, 2 + commentRun (s.drop 1)) ∨
      ∃ k, punctuation (Char.ofNat b.toNat) = some k ∧ tokenAt b s = (k, 1) := by
  cases hs : isSpace b with
  | true => exact .inl ⟨rfl, by simp [tokenAt, hs]⟩
  | false =>
    cases hp : punctuation (Char.ofNat b.toNat) with
    | some k => exact .inr (.inr ⟨k, rfl, tokenAt_punctuation hs hp s⟩)
    | none =>
      by_cases hc : Char.ofNat b.toNat = '/'
      · obtain rfl := byte_of_char hc
        have hslash : tokenAt (UInt8.ofNat '/'.toNat) s =
            if s.head? == some 0x2A then (.comment, 2 + commentRun (s.drop 1))
            else (.delim, 1) := rfl
        by_cases hstar : s.head? = some 0x2A
        · exact .inr (.inl ⟨rfl, hstar, by rw [hslash, hstar]; rfl⟩)
        · rw [hslash, if_neg (by simpa using hstar)] at h
          cases h
      · rw [not_opening_of_start hs hp hc] at h
        cases h

/-- **Only a closing brace is one.** -/
theorem tokenAt_rightBrace {b : UInt8} {s : Bytes} (h : (tokenAt b s).1 = .rightBrace) :
    b = 0x7D ∧ tokenAt b s = (.rightBrace, 1) := by
  rcases tokenAt_opening (b := b) (s := s) (by rw [h]; rfl) with ⟨-, ht⟩ | ⟨-, -, ht⟩ | ⟨k, hk, ht⟩
  · rw [ht] at h
    cases h
  · rw [ht] at h
    cases h
  · rw [ht] at h
    obtain rfl : k = .rightBrace := h
    refine ⟨?_, ht⟩
    unfold punctuation at hk
    split at hk
    all_goals first
      | exact byte_of_char (by assumption)
      | cases hk

theorem tokensFrom_cons (b : UInt8) (s : Bytes) :
    tokensFrom 0 (b :: s) = ⟨(tokenAt b s).1, b :: s.take ((tokenAt b s).2 - 1)⟩ ::
      tokensFrom ((tokenAt b s).2 - 1) s :=
  rfl

/-- There is no token only where all bytes belong to the token before. -/
theorem tokensFrom_eq_nil : ∀ {s : Bytes} {skip : Nat}, tokensFrom skip s = [] ↔ s.length ≤ skip
  | [], _ => by simp [tokensFrom]
  | _ :: s, skip + 1 => by simp [tokensFrom, tokensFrom_eq_nil]
  | b :: s, 0 => by simp [tokensFrom]

/-- The last token of a stream is a closing brace. -/
def EndsInBrace (ts : List Token) : Prop := ts.getLast?.map Token.kind = some .rightBrace

instance (ts : List Token) : Decidable (EndsInBrace ts) :=
  inferInstanceAs (Decidable (_ = _))

theorem EndsInBrace.tail {t : Token} {ts : List Token} (h : EndsInBrace (t :: ts)) :
    ts = [] ∧ t.kind = .rightBrace ∨ EndsInBrace ts := by
  cases ts with
  | nil => exact .inl ⟨rfl, by simpa [EndsInBrace] using h⟩
  | cons u ts => exact .inr (by simpa [EndsInBrace, List.getLast?_cons_cons] using h)

/-- A text whose last token is a closing brace ends in that byte. -/
theorem exists_of_endsInBrace :
    ∀ {s : Bytes} {skip : Nat}, EndsInBrace (tokensFrom skip s) → ∃ t, s = t ++ [0x7D]
  | b :: s, skip + 1, h => by
    obtain ⟨t, rfl⟩ := exists_of_endsInBrace (show EndsInBrace (tokensFrom skip s) from h)
    exact ⟨b :: t, rfl⟩
  | b :: s, 0, h => by
    rw [tokensFrom_cons] at h
    rcases h.tail with ⟨hnil, hk⟩ | h
    · obtain ⟨rfl, hone⟩ := tokenAt_rightBrace hk
      rw [tokensFrom_eq_nil, hone, Nat.sub_self, Nat.le_zero, List.length_eq_zero_iff] at hnil
      exact ⟨[], by rw [hnil]; rfl⟩
    · obtain ⟨t, rfl⟩ := exists_of_endsInBrace (s := s) h
      exact ⟨b :: t, rfl⟩

theorem tokensFrom_append (rest : Bytes) :
    ∀ {t : Bytes} {skip : Nat}, EndsInBrace (tokensFrom skip (t ++ [0x7D])) →
      tokensFrom skip (t ++ 0x7D :: rest) = tokensFrom skip (t ++ [0x7D]) ++ tokens rest
  | [], 0, _ => rfl
  | [], skip + 1, h => by simp [tokensFrom, EndsInBrace] at h
  | _ :: t, skip + 1, h => tokensFrom_append rest (t := t) h
  | b :: t, 0, h => by
    rw [List.cons_append, tokensFrom_cons] at h
    rcases h.tail with ⟨hnil, hk⟩ | h
    · -- the token is a closing brace, yet takes the last one as well
      obtain ⟨-, hone⟩ := tokenAt_rightBrace hk
      rw [tokensFrom_eq_nil, hone] at hnil
      simp at hnil
    obtain ⟨a, hle, hsettled⟩ | hlong := firstToken_settles (b :: t)
    · have hat : ∀ rest : Bytes, tokenAt b (t ++ 0x7D :: rest) = a := hsettled
      have hlen : a.2 - 1 ≤ t.length := Nat.sub_le_of_le_add hle
      rw [hat] at h
      rw [List.cons_append, List.cons_append, tokensFrom_cons, tokensFrom_cons, hat, hat,
        tokensFrom_append rest h, List.take_append_of_le_length hlen,
        List.take_append_of_le_length hlen, List.cons_append]
    · -- the first token takes the last brace, so nothing is left for another one
      have hlen : t.length + 1 < (tokenAt b (t ++ [0x7D])).2 := hlong []
      have hnil : tokensFrom ((tokenAt b (t ++ [0x7D])).2 - 1) (t ++ [0x7D]) = [] := by
        rw [tokensFrom_eq_nil, List.length_append, List.length_singleton]
        omega
      rw [hnil] at h
      simp [EndsInBrace] at h

/-- **Behind a closing brace the tokens start anew.** What follows a text whose last token is a
closing brace changes none of its tokens, and is cut as if it stood alone. -/
theorem tokens_append {s : Bytes} (h : EndsInBrace (tokens s)) (rest : Bytes) :
    tokens (s ++ rest) = tokens s ++ tokens rest := by
  obtain ⟨t, rfl⟩ := exists_of_endsInBrace h
  rw [List.append_assoc, List.singleton_append]
  exact tokensFrom_append rest h

end VarLint.Stylesheet