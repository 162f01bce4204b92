import VarLint.Proofs.VariableTokens
import VarLint.Regex.Parse

/-!
# The grammar of variable references

A token is searched for an expression whose anchor belongs to one of its alternatives only. What the
search finds is a property of the token's bytes:

* `isVariable_iff_bytes`: a leading `$`, or one of three words anywhere.
* `isVariable_append`, `isVariable_behind_any_iff`: what stays a variable when text is added behind
  it, or before it.
* `isVariable_grammar`: all of this, for the expression as it is written.
-/

namespace VarLint.Value

/-- The token holds one of the notations that count wherever they stand. -/
def HoldsNotation (t : Bytes) : Prop :=
  ("map-get" : Bytes) <:+: t ∨ ("@" : Bytes) <:+: t ∨ ("var" : Bytes) <:+: t

theorem HoldsNotation.mono {t u : Bytes} (h : HoldsNotation t) (hu : t <:+: u) :
    HoldsNotation u := by
  rcases h with hget | hat | hvar
  · exact .inl (hget.trans hu)
  · exact .inr (.inl (hat.trans hu))
  · exact .inr (.inr (hvar.trans hu))

/-- **What makes a token a variable**, read off its bytes. -/
theorem isVariable_iff_bytes (t : Bytes) :
    isVariable t = true ↔ ("$" : Bytes) <+: t ∨ HoldsNotation t := by
  have hinfix : ∀ k : String, Rune.replacement ∉ k.toList →
      (k.toList <:+: t.chars ↔ (k : Bytes) <:+: t) :=
    fun k hk => (Bytes.ofChars_infix_iff hk).symm
  have hdollar : "$".toList <+: t.chars ↔ ("$" : Bytes) <+: t :=
    (Bytes.ofChars_prefix_iff (by decide)).symm
  rw [isVariable_iff, hdollar, hinfix "map-get" (by decide), hinfix "@" (by decide),
    hinfix "var" (by decide)]
  rfl

theorem isVariable_append {t : Bytes} (h : isVariable t = true) (more : Bytes) :
    isVariable (t ++ more) = true := by
  rw [isVariable_iff_bytes] at h ⊢
  rcases h with hdollar | hholds
  · exact .inl (hdollar.trans (List.prefix_append t more))
  · exact .inr (hholds.mono (List.prefix_append t more).isInfix)

theorem infix_of_infix_cons {b c : UInt8} {k t : Bytes} (hne : c ≠ b) (h : c :: k <:+: b :: t) :
    c :: k <:+: t := by
  rcases List.infix_cons_iff.1 h with hprefix | hinfix
  · exact absurd (List.cons_prefix_cons.1 hprefix).1 hne
  · exact hinfix

/-- **What stays a variable behind any text**: exactly what holds a notation. A `$` does not count
behind a blank, which starts none of the words. -/
theorem isVariable_behind_any_iff (t : Bytes) :
    (∀ before : Bytes, isVariable (before ++ t) = true) ↔ HoldsNotation t := by
  constructor
  · intro h
    have hblank := h " "
    rw [isVariable_iff_bytes] at hblank
    rcases hblank with hdollar | hget | hat | hvar
    · exact absurd (List.cons_prefix_cons.1 hdollar).1 (by decide)
    · exact .inl (infix_of_infix_cons (by decide) hget)
    · exact .inr (.inl (infix_of_infix_cons (by decide) hat))
    · exact .inr (.inr (infix_of_infix_cons (by decide) hvar))
  · intro h before
    rw [isVariable_iff_bytes]
    exact .inr (h.mono (List.suffix_append before t).isInfix)

/-- **The grammar of variable references.** A token refers to a variable if a search for the
expression finds something anywhere in it, which is the case if it starts with `$` or holds
`map-get`, `@` or `var`. It stays a reference whatever is written behind it. Whatever is written
before it, it stays one if it holds one of the three; a leading `$` alone is lost behind some
text. -/
theorem isVariable_grammar :
    (∃ expression, Regex.parse "^(\\$)|(map-get)|(@)|(var)" = .ok expression ∧
      ∀ token, isVariable token = expression.test token) ∧
    (∀ token : Bytes, isVariable token = true ↔ ("$" : Bytes) <+: token ∨ HoldsNotation token) ∧
    (∀ token more : Bytes, isVariable token = true → isVariable (token ++ more) = true) ∧
    ∀ token : Bytes, (∀ before : Bytes, isVariable (before ++ token) = true) ↔
      HoldsNotation token := by
  refine ⟨⟨variableNotation, ?_, fun token => rfl⟩, isVariable_iff_bytes, ?_,
    isVariable_behind_any_iff⟩
  · decide +kernel
  · intro token more h
    exact isVariable_append h more

/-- A word counts in the middle of another one and next to malformed bytes, a `$` at the start
only. -/
theorem isVariable_grammar_invariant :
    isVariable "invariant" = true ∧ isVariable (("invariant" : Bytes) ++ [0xC3]) = true ∧
      isVariable ([0xC3] ++ ("invariant" : Bytes)) = true ∧
      isVariable "$a" = true ∧ isVariable (("$a" : Bytes) ++ [0xC3]) = true ∧
      isVariable "b$a" = false := by
  obtain ⟨-, -, hbehind, hbefore⟩ := isVariable_grammar
  have hword : isVariable "invariant" = true := by decide
  have hdollar : isVariable "$a" = true := by decide
  exact ⟨hword, hbehind "invariant" [0xC3] hword,
    (hbefore "invariant").2 (.inr (.inr ⟨"in", "iant", rfl⟩)) [0xC3], hdollar,
    hbehind "$a" [0xC3] hdollar,
    by decide⟩

end VarLint.Value
