import VarLint.Pattern
import VarLint.Proofs.InlineFlags
import VarLint.Proofs.Tallies

/-!
# The grammar of pattern literals

A literal is `/body/flags`. The body may hold slashes and the flags may not, so the last slash
closes it.

* `activeFlags_eq`, `activeFlags_error`: of flag letters the active ones are found, each at its
  first occurrence (`active`), and anything else behind the closing slash is an error.
* `unwrap_literal`, `unwrap_cases`: literals are taken apart, and nothing else is. A text of flag
  letters is well-formed, so malformed bytes behind the slash do not pass for flags.
* `literal_inj`: a literal has one body and one text of flags.
* `parse_sourceOf_alike`: the order and the number of flags have no say in what is compiled, since
  the group of flags before the body does nothing but switch them on.
* `parse_exactly_literals`: **what is accepted, what is made of it, and why anything else is not**.
-/

namespace VarLint

namespace Bytes

theorem lastIndexOf?_eq_none {b : UInt8} {s : Bytes} (h : b ∉ s) : lastIndexOf? b s = none := by
  have hnone : s.reverse.idxOf? b = none := by simpa using h
  rw [lastIndexOf?, hnone]
  rfl

/-- **The last occurrence of a byte** is the one behind which there is none. -/
theorem lastIndexOf?_append {b : UInt8} (u : Bytes) {v : Bytes} (h : b ∉ v) :
    lastIndexOf? b (u ++ b :: v) = some u.length := by
  have hrev : (u ++ b :: v).reverse = v.reverse ++ b :: u.reverse := by simp
  have hidx : (u ++ b :: v).reverse.idxOf? b = some v.reverse.length := by
    rw [hrev]
    refine List.idxOf?_eq_some_iff.2 ⟨by simp, by simp, fun j hj he => h ?_⟩
    rw [List.getElem_append_left hj] at he
    exact List.mem_reverse.1 (he ▸ List.getElem_mem hj)
  rw [lastIndexOf?, hidx, Option.map_some, Option.some.injEq, List.length_append, List.length_cons,
    List.length_reverse]
  omega

theorem exists_last {b : UInt8} {s : Bytes} (h : b ∈ s) :
    ∃ u v : Bytes, s = u ++ b :: v ∧ b ∉ v := by
  obtain ⟨u, v, hs, hu⟩ := List.eq_append_cons_of_mem (List.mem_reverse.2 h)
  refine ⟨v.reverse, u.reverse, ?_, by simpa using hu⟩
  rw [← List.reverse_reverse s, hs]
  simp

end Bytes

namespace Pattern

/-- The letters that may stand behind the closing slash. -/
def flagLetters : List Char := ['g', 'i', 'm', 's', 'u', 'y']

/-- All of the characters are flag letters. -/
def AreFlags (flags : List Char) : Prop := ∀ c ∈ flags, c ∈ flagLetters

/-- The flags that change the meaning of an expression, each at its first occurrence only. -/
def active (flags : List Char) : List Char := Tally.distinct (flags.filter (· ∈ Regex.switches))

/-- The literal with a body and flags. -/
def literal (body : Bytes) (flags : List Char) : Bytes :=
  0x2F :: body ++ 0x2F :: Bytes.ofChars flags

/-- The text is the literal with this body and these flags. -/
def HasParts (s body : Bytes) (flags : List Char) : Prop := AreFlags flags ∧ s = literal body flags

/-! ## Flags -/

theorem mem_active {c : Char} {flags : List Char} :
    c ∈ active flags ↔ c ∈ flags ∧ c ∈ Regex.switches := by
  rw [active, Tally.mem_distinct, List.mem_filter, decide_eq_true_eq]

theorem active_cons (c : Char) (flags : List Char) :
    active (c :: flags) = if c ∈ Regex.switches then
      c :: (active flags).filter (fun d => !(d == c)) else active flags := by
  by_cases hactive : c ∈ Regex.switches
  · simp [active, hactive, Tally.distinct]
  · simp [active, hactive]

theorem active_perm {flags flags' : List Char}
    (hsame : ∀ c ∈ Regex.switches, (c ∈ flags ↔ c ∈ flags')) :
    (active flags).Perm (active flags') := by
  refine (List.perm_ext_iff_of_nodup (Tally.nodup_distinct _)
    (Tally.nodup_distinct _)).2 fun c => ?_
  exact mem_active.trans ((and_congr_left (hsame c)).trans mem_active.symm)

/-- **One flag more**: an active one is noted once, any other letter is passed, and all else is an
error. -/
theorem activeFlags_cons (s : Bytes) (found : List Char) (c : Char) (flags : List Char) :
    activeFlags s found (c :: flags) =
      if c ∈ Regex.switches then
        activeFlags s (if found.contains c then found else found ++ [c]) flags
      else if c ∈ flagLetters then activeFlags s found flags
      else .error (.unknownFlag s c) := by
  have hswitch : (c == 'i' || c == 'm' || c == 's') = true ↔ c ∈ Regex.switches := by
    simp [Regex.switches, or_assoc]
  have hother : c ∉ Regex.switches →
      ((c == 'g' || c == 'u' || c == 'y') = true ↔ c ∈ flagLetters) := by
    intro hc
    simp only [Regex.switches, List.mem_cons, List.not_mem_nil, or_false, not_or] at hc
    simp [flagLetters, hc, or_assoc]
  rw [activeFlags]
  by_cases hactive : c ∈ Regex.switches
  · rw [if_pos hactive, if_pos (hswitch.2 hactive)]
  · rw [if_neg hactive, if_neg (mt hswitch.1 hactive)]
    simp only [hother hactive]

/-- **The flags that are found** are the active ones, each at its first occurrence. -/
theorem activeFlags_eq (s : Bytes) : ∀ (flags found : List Char), AreFlags flags →
    activeFlags s found flags = .ok (found ++ (active flags).filter fun c => !found.contains c)
  | [], found, _ => by simp [activeFlags, active, Tally.distinct]
  | c :: flags, found, h => by
    have hflags : AreFlags flags := fun d hd => h d (List.mem_cons_of_mem _ hd)
    rw [activeFlags_cons, active_cons]
    by_cases hactive : c ∈ Regex.switches
    · rw [if_pos hactive, if_pos hactive, activeFlags_eq s flags _ hflags, List.filter_cons,
        List.filter_filter]
      -- a letter that comes again is not noted, and either way none of it is left to be found
      by_cases hfound : found.contains c
      · rw [if_pos hfound, if_neg (by simpa using hfound)]
        refine congrArg (fun l => Except.ok (found ++ l)) (List.filter_congr fun d _ => ?_)
        by_cases hd : d = c
        · simp [hd, List.contains_iff_mem.1 hfound]
        · simp [hd]
      · rw [if_neg hfound, if_pos (by simpa using hfound), List.append_assoc, List.singleton_append]
        refine congrArg (fun l => Except.ok (found ++ c :: l)) (List.filter_congr fun d _ => ?_)
        by_cases hd : d = c <;> simp [hd]
    · rw [if_neg hactive, if_neg hactive, if_pos (h c List.mem_cons_self),
        activeFlags_eq s flags found hflags]

/-- **What is no flag letter** is an error. -/
theorem activeFlags_error (s : Bytes) : ∀ (flags found : List Char), ¬AreFlags flags →
    ∃ c, activeFlags s found flags = .error (.unknownFlag s c)
  | [], found, h => absurd (fun _ hc => by cases hc) h
  | c :: flags, found, h => by
    have hrest : c ∈ flagLetters → ¬AreFlags flags := fun hc hflags =>
      h fun d hd => (List.mem_cons.1 hd).elim (fun he => he ▸ hc) (hflags d)
    rw [activeFlags_cons]
    split
    · rename_i hactive
      have hc : c ∈ flagLetters := by
        simp only [Regex.switches, List.mem_cons, List.not_mem_nil, or_false] at hactive
        rcases hactive with rfl | rfl | rfl <;> decide
      exact activeFlags_error s flags _ (hrest hc)
    · split
      · rename_i hc
        exact activeFlags_error s flags found (hrest hc)
      · exact ⟨c, rfl⟩

/-! ## Literals -/

theorem slash_not_mem_ofChars {flags : List Char} (h : AreFlags flags) :
    0x2F ∉ Bytes.ofChars flags := by
  intro hslash
  obtain ⟨c, hc, hmem⟩ := List.mem_flatMap.1 hslash
  have hletter := h c hc
  simp only [flagLetters, List.mem_cons, List.not_mem_nil, or_false] at hletter
  rcases hletter with rfl | rfl | rfl | rfl | rfl | rfl <;> revert hmem <;> decide

/-- A text whose characters are flag letters is made of their bytes: nothing in it is malformed. -/
theorem ofChars_chars_of_flags {t : Bytes} (h : AreFlags t.chars) : Bytes.ofChars t.chars = t := by
  refine Bytes.ofChars_chars (List.all_eq_true.2 fun r hr => ?_)
  have hletter := h r.char (List.mem_map_of_mem hr)
  have hne : r.char ≠ Rune.replacement := fun he => by
    rw [he] at hletter
    revert hletter
    decide
  simp [Rune.isMalformed, hne]

/-- **The last slash closes a literal**, and what stands behind it has to be flags. -/
theorem unwrap_of_last_slash (body : Bytes) {t : Bytes} (ht : 0x2F ∉ t) :
    unwrap (0x2F :: (body ++ 0x2F :: t)) =
      (activeFlags (0x2F :: (body ++ 0x2F :: t)) [] t.chars).map fun flags => (body, flags) := by
  have hdrop : (body ++ 0x2F :: t).drop (body.length + 1) = t := by simp
  have htake : (body ++ 0x2F :: t).take body.length = body := by simp
  unfold unwrap
  simp only [Bytes.lastIndexOf?_append body ht, hdrop, htake]
  cases activeFlags (0x2F :: (body ++ 0x2F :: t)) [] t.chars <;> rfl

/-- **A literal is taken apart** into its body and its active flags. -/
theorem unwrap_literal (body : Bytes) {flags : List Char} (h : AreFlags flags) :
    unwrap (literal body flags) = .ok (body, active flags) := by
  refine (unwrap_of_last_slash body (slash_not_mem_ofChars h)).trans ?_
  rw [Bytes.chars_ofChars, activeFlags_eq _ flags [] h]
  simp [Except.map]

/-- **Every text** is a literal, lacks one of the two slashes, or has something else than flags
behind the last one. -/
theorem unwrap_cases (s : Bytes) :
    (∃ body flags, HasParts s body flags) ∨
      unwrap s = .error (.notDelimited s) ∨ ∃ c, unwrap s = .error (.unknownFlag s c) := by
  cases s with
  | nil => exact .inr (.inl rfl)
  | cons first inside =>
    by_cases hfirst : first = 0x2F
    · subst hfirst
      -- a second slash is needed, and the last one closes
      by_cases hslash : 0x2F ∈ inside
      · obtain ⟨body, t, rfl, ht⟩ := Bytes.exists_last hslash
        by_cases hflags : AreFlags t.chars
        · exact .inl ⟨body, t.chars, hflags, by rw [literal, ofChars_chars_of_flags hflags]; rfl⟩
        · obtain ⟨c, hc⟩ := activeFlags_error (0x2F :: (body ++ 0x2F :: t)) t.chars [] hflags
          exact .inr (.inr ⟨c, by rw [unwrap_of_last_slash body ht, hc]; rfl⟩)
      · exact .inr (.inl (by simp [unwrap, Bytes.lastIndexOf?_eq_none hslash]))
    · exact .inr (.inl (by simp [unwrap, hfirst]))

/-- **A literal has one body and one text of flags.** -/
theorem literal_inj {body body' : Bytes} {flags flags' : List Char} (h : AreFlags flags)
    (h' : AreFlags flags') (heq : literal body flags = literal body' flags') :
    body = body' ∧ flags = flags' := by
  have hbody : body = body' := by
    have hunwrap := unwrap_literal body h
    rw [heq, unwrap_literal body' h'] at hunwrap
    exact (Prod.mk.inj (Except.ok.inj hunwrap)).1.symm
  subst hbody
  have hbytes : Bytes.ofChars flags = Bytes.ofChars flags' := by simpa [literal] using heq
  exact ⟨rfl, by rw [← Bytes.chars_ofChars flags, hbytes, Bytes.chars_ofChars]⟩

theorem isDelimited_iff (s : Bytes) : isDelimited s = true ↔
    ∃ body flags, HasParts s body flags := by
  constructor
  · intro h
    obtain hparts | hunwrap | ⟨c, hunwrap⟩ := unwrap_cases s
    · exact hparts
    · simp [isDelimited, hunwrap, Except.isOk, Except.toBool] at h
    · simp [isDelimited, hunwrap, Except.isOk, Except.toBool] at h
  · rintro ⟨body, flags, h, rfl⟩
    rw [isDelimited, unwrap_literal body h]
    rfl

/-! ## Patterns -/

/-- **The pattern of a literal** is that of its body with the active flags before it. -/
theorem parse_literal (body : Bytes) {flags : List Char} (h : AreFlags flags) :
    parse (literal body flags) = ((Regex.parse (sourceOf body (active flags))).map
      (Pattern.mk (sourceOf body (active flags)))).mapError (.malformed (literal body flags)) := by
  unfold parse
  rw [unwrap_literal body h]
  simp only [bind, Except.bind]
  cases Regex.parse (sourceOf body (active flags)) <;> rfl

theorem regex_of_parse (body : Bytes) {flags : List Char} (h : AreFlags flags) :
    (parse (literal body flags)).toOption.map Pattern.regex =
      (Regex.parse (sourceOf body (active flags))).toOption := by
  rw [parse_literal body h]
  cases Regex.parse (sourceOf body (active flags)) <;> rfl

theorem parse_of_unwrap_error {s : Bytes} {e : Error} (h : unwrap s = .error e) :
    parse s = .error e := by
  unfold parse
  rw [h]
  rfl

/-- **A text is no pattern for its form** exactly if it is no literal. -/
theorem parse_form_error_iff (s : Bytes) :
    (parse s = .error (.notDelimited s) ∨ ∃ c, parse s = .error (.unknownFlag s c)) ↔
      ¬∃ body flags, HasParts s body flags := by
  constructor
  · rintro herror ⟨body, flags, h, rfl⟩
    rw [parse_literal body h] at herror
    generalize Regex.parse (sourceOf body (active flags)) = reading at herror
    cases reading with
    | ok regex => rcases herror with he | ⟨c, he⟩ <;> cases he
    | error cause => rcases herror with he | ⟨c, he⟩ <;> cases he
  · intro hno
    obtain hparts | hunwrap | ⟨c, hunwrap⟩ := unwrap_cases s
    · exact absurd hparts hno
    · exact .inl (parse_of_unwrap_error hunwrap)
    · exact .inr ⟨c, parse_of_unwrap_error hunwrap⟩

/-- **A text is no pattern for its expression** exactly if it is a literal whose expression cannot
be read. -/
theorem parse_malformed_iff (s : Bytes) :
    (∃ cause, parse s = .error (.malformed s cause)) ↔ ∃ body flags cause,
      HasParts s body flags ∧ Regex.parse (sourceOf body (active flags)) = .error cause := by
  constructor
  · rintro ⟨cause, herror⟩
    obtain ⟨body, flags, h, rfl⟩ | hunwrap | ⟨c, hunwrap⟩ := unwrap_cases s
    · rw [parse_literal body h] at herror
      cases hregex : Regex.parse (sourceOf body (active flags)) with
      | error cause' => exact ⟨body, flags, cause', ⟨h, rfl⟩, hregex⟩
      | ok regex =>
        rw [hregex] at herror
        cases herror
    · cases (parse_of_unwrap_error hunwrap).symm.trans herror
    · cases (parse_of_unwrap_error hunwrap).symm.trans herror
  · rintro ⟨body, flags, cause, ⟨h, rfl⟩, hregex⟩
    refine ⟨cause, ?_⟩
    rw [parse_literal body h, hregex]
    rfl

theorem parse_sourceOf (body : Bytes) {flags : List Char} (h : ∀ c ∈ flags, c ∈ Regex.switches) :
    ∃ whole, Regex.parse (sourceOf body flags) =
      Regex.readFrom whole (Regex.Flags.switchOn {} flags) body.runes := by
  cases flags with
  | nil => exact ⟨body.runes, rfl⟩
  | cons c flags => exact Regex.parse_inline (by simp) h body

/-- **Flags with the same active letters** read a body alike. -/
theorem parse_sourceOf_alike (body : Bytes) {flags flags' : List Char}
    (hsame : ∀ c ∈ Regex.switches, (c ∈ flags ↔ c ∈ flags')) :
    Regex.Alike (Regex.parse (sourceOf body (active flags)))
      (Regex.parse (sourceOf body (active flags'))) := by
  have hswitches : ∀ flags : List Char, ∀ c ∈ active flags, c ∈ Regex.switches :=
    fun flags c hc => (mem_active.1 hc).2
  have hon : ∀ c : Char, (active flags).contains c = (active flags').contains c := by
    intro c
    rw [Bool.eq_iff_iff, List.contains_iff_mem, List.contains_iff_mem]
    exact (active_perm hsame).mem_iff
  have hflags : Regex.Flags.switchOn {} (active flags) =
      Regex.Flags.switchOn {} (active flags') := by
    rw [Regex.Flags.switchOn, Regex.Flags.switchOn, hon, hon, hon]
  obtain ⟨whole, hwhole⟩ := parse_sourceOf body (hswitches flags)
  obtain ⟨whole', hwhole'⟩ := parse_sourceOf body (hswitches flags')
  rw [hwhole, hwhole', hflags]
  exact Regex.readFrom_alike whole whole' _ _

/-- **The grammar of pattern literals.** A text is a literal exactly if it is a slash, a body of any
bytes, a slash and flags. It has then one body and one text of flags; it is taken apart into the
body and the active flags, each at its first occurrence; and its pattern is compiled from the body,
behind a group of the active flags if there are any. Flags with the same active letters, in whatever
order and number and with whatever other letters among them, have the same ones active and compile
to the same expression, or both to none. A text is no pattern for its form (its slashes, or
something that is no flag) exactly if it is no literal, and for its expression exactly if it is a
literal whose expression cannot be read. -/
theorem parse_exactly_literals (s : Bytes) :
    (isDelimited s = true ↔ ∃ body flags, HasParts s body flags) ∧
      (∀ body flags, HasParts s body flags →
        (∀ body' flags', HasParts s body' flags' → body' = body ∧ flags' = flags) ∧
        unwrap s = .ok (body, active flags) ∧
        sourceOf body (active flags) = (if active flags = [] then body
          else "(?" ++ Bytes.ofChars (active flags) ++ ")" ++ body) ∧
        parse s = ((Regex.parse (sourceOf body (active flags))).map
          (Pattern.mk (sourceOf body (active flags)))).mapError (.malformed s) ∧
        ∀ flags', AreFlags flags' → (∀ c ∈ Regex.switches, (c ∈ flags ↔ c ∈ flags')) →
          (active flags).Perm (active flags') ∧
            (parse s).toOption.map Pattern.regex =
              (parse (literal body flags')).toOption.map Pattern.regex) ∧
      ((parse s = .error (.notDelimited s) ∨ ∃ c, parse s = .error (.unknownFlag s c)) ↔
        ¬∃ body flags, HasParts s body flags) ∧
      ((∃ cause, parse s = .error (.malformed s cause)) ↔
        ∃ body flags cause, HasParts s body flags ∧
          Regex.parse (sourceOf body (active flags)) = .error cause) := by
  refine ⟨isDelimited_iff s, ?_, parse_form_error_iff s, parse_malformed_iff s⟩
  rintro body flags ⟨h, rfl⟩
  refine ⟨?_, unwrap_literal body h, by simp [sourceOf], parse_literal body h, ?_⟩
  · rintro body' flags' ⟨h', heq⟩
    exact literal_inj h' h heq.symm
  · intro flags' h' hsame
    refine ⟨active_perm hsame, ?_⟩
    rw [regex_of_parse body h, regex_of_parse body h']
    exact parse_sourceOf_alike body hsame

/-- A body with a slash, and a flag that comes twice. Once and in another order the flags compile to
the same expression. -/
theorem parse_exactly_literals_repeated :
    HasParts "/a/b/gimi" "a/b" ['g', 'i', 'm', 'i'] ∧ active ['g', 'i', 'm', 'i'] = ['i', 'm'] ∧
      unwrap "/a/b/gimi" = .ok ("a/b", active ['g', 'i', 'm', 'i']) ∧ AreFlags ['m', 'i', 'u'] ∧
      (parse "/a/b/gimi").toOption.map Pattern.regex =
        (parse (literal "a/b" ['m', 'i', 'u'])).toOption.map Pattern.regex := by
  have hparts : HasParts "/a/b/gimi" "a/b" ['g', 'i', 'm', 'i'] :=
    ⟨by simp [AreFlags, flagLetters], rfl⟩
  have hflags : AreFlags ['m', 'i', 'u'] := by simp [AreFlags, flagLetters]
  obtain ⟨-, hunwrap, -, -, hsame⟩ := (parse_exactly_literals "/a/b/gimi").2.1 _ _ hparts
  exact ⟨hparts, rfl, hunwrap, hflags, (hsame _ hflags (by simp [Regex.switches])).2⟩

end Pattern

end VarLint
