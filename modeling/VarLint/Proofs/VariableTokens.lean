import VarLint.Proofs.Leftover
import VarLint.Proofs.QuotedTokens
import VarLint.Value.Verdict

/-!
# Variables among tokens

* `literalsOf_eq`: the literals of a value without quotes are those fields that are no variables.
* `testBit_image_literal`: the places behind a word that occurs in a text.
* `isVariable_iff`: a token refers to a variable if it starts with `$` or holds one of three words.
* `isVariable_of_runs`, `isVariable_of_mem_tokens`: so a token of several fields is a variable if
  they are.
* `judge_of_variable_fields`: judging tokens rejects nothing that judging fields accepts.
-/

namespace VarLint

namespace Value

open Bytes

/-! ## Tokens and fields -/

@[simp] theorem isVariable_ofChars_chars (f : Bytes) :
    isVariable (ofChars f.chars) = isVariable f := by
  rw [isVariable, isVariable, Regex.test, Regex.test, chars_ofChars]

end Value

/-- **The literals of a value without quotes** are its fields that are no variables. -/
theorem Verdict.literalsOf_eq {s : Bytes} (hs : ∀ c ∈ s.chars, Value.isQuote c = false) :
    literalsOf s = (s.fields.filter fun f => !Value.isVariable f).map fun f =>
      Bytes.ofChars f.chars := by
  rw [literalsOf, Value.tokens_eq_fields hs, List.filter_map]
  simp [Function.comp_def]

theorem Value.isQuote_of_isBlank {c : Char} (h : isBlank c = true) : isQuote c = false := by
  by_contra hq
  rw [Bool.not_eq_false] at hq
  rw [isBlank_of_isQuote hq] at h
  cases h

/-- The same for a value whose fields hold no quotes. -/
theorem Verdict.literalsOf_of_fields {s : Bytes}
    (hs : ∀ f ∈ s.fields, ∀ c ∈ f.chars, Value.isQuote c = false) :
    literalsOf s = (s.fields.filter fun f => !Value.isVariable f).map fun f =>
      Bytes.ofChars f.chars := by
  refine literalsOf_eq fun c hc => ?_
  rcases Bytes.mem_chars hc with hblank | ⟨f, hf, hcf⟩
  · exact Value.isQuote_of_isBlank hblank
  · exact hs f hf c hcf

/-- **Without exceptions a value passes if its normalized fields are variables.** -/
theorem Verdict.accepted_none_iff {property value : Bytes}
    (hq : ∀ f ∈ (Value.normalize property value).fields, ∀ c ∈ f.chars, Value.isQuote c = false) :
    (judge none property value).accepted = true ↔
      ∀ f ∈ (Value.normalize property value).fields, Value.isVariable f = true := by
  have hempty : (judge none property value).accepted =
      (literalsOf (Value.normalize property value)).isEmpty := by
    simp [judge, accepted]
  rw [hempty, literalsOf_of_fields hq, List.isEmpty_iff, List.map_eq_nil_iff,
    List.filter_eq_nil_iff]
  simp

/-! ## Variables -/

namespace Places

theorem testBit_before (p : Char → Bool) : ∀ (cs : List Char) (i : Nat),
    Nat.testBit (before p cs) i = cs[i]?.any p
  | [], i => by simp [before]
  | c :: cs, 0 => by
    rw [before, Nat.testBit_zero, Nat.add_mul_mod_self_left, List.getElem?_cons_zero]
    cases h : p c <;> simp [h]
  | c :: cs, i + 1 => by
    have hdiv : ∀ n : Nat, ((if p c then 1 else 0) + 2 * n) / 2 = n := by
      intro n
      split <;> omega
    rw [before, Nat.testBit_succ, hdiv, testBit_before p cs i, List.getElem?_cons_succ]

theorem testBit_all (n i : Nat) : (all n).testBit i = decide (i ≤ n) := by
  have h : all n = 2 ^ (n + 1) - 1 := rfl
  rw [h, Nat.testBit_two_pow_sub_one]
  exact decide_eq_decide.2 (by omega)

theorem ne_zero_iff (s : Places) : s ≠ 0 ↔ ∃ i, Nat.testBit s i = true := by
  constructor
  · exact Nat.exists_testBit_of_ne_zero
  · rintro ⟨i, hi⟩ rfl
    simp at hi

end Places

namespace Regex

/-- **The places behind a word** that starts at one of the given places. -/
theorem testBit_image_literal (text : List Char) (size : Nat) :
    ∀ (k : List Char) (s : Places) (j : Nat),
    (((sequence (k.map fun c => .char (.single false c.toNat))).over text).image size s).testBit j =
        true ↔
      ∃ i, i + k.length = j ∧ Nat.testBit s i = true ∧ k <+: text.drop i
  | [], s, j => by simp [sequence, Regex.over, Overlay.image]
  | [c], s, j => by
    simp only [List.map_cons, List.map_nil, sequence, Regex.over, Overlay.image,
      Nat.testBit_shiftLeft, Nat.testBit_and, Places.testBit_before, Bool.and_eq_true,
      decide_eq_true_eq, List.length_singleton]
    constructor
    · rintro ⟨hj, hs, hc⟩
      refine ⟨j - 1, by omega, hs, ?_⟩
      cases hd : text[j - 1]? with
      | none => simp [hd] at hc
      | some d =>
        obtain ⟨hlt, hget⟩ := List.getElem?_eq_some_iff.1 hd
        rw [hd] at hc
        simp only [Option.any_some, CharClass.contains_single, beq_iff_eq] at hc
        rw [List.drop_eq_getElem_cons hlt, hget, hc]
        exact List.prefix_cons_inj c |>.2 List.nil_prefix
    · rintro ⟨i, rfl, hs, hp⟩
      refine ⟨by omega, hs, ?_⟩
      obtain ⟨t, ht⟩ := hp
      have : text[i]? = some c := by
        rw [← List.head?_drop, ← ht]
        rfl
      simp [this]
  | c :: d :: k, s, j => by
    have hstep :
        ((sequence ((c :: d :: k).map fun c => .char (.single false c.toNat))).over text).image
            size s =
          ((sequence ((d :: k).map fun c => .char (.single false c.toNat))).over text).image size
            (((sequence ([c].map fun c => .char (.single false c.toNat))).over text).image
              size s) :=
      rfl
    rw [hstep, testBit_image_literal text size (d :: k)]
    constructor
    · rintro ⟨i, rfl, hi, hp⟩
      obtain ⟨m, rfl, hs, hc⟩ := (testBit_image_literal text size [c] s i).1 hi
      refine ⟨m, by simp; omega, hs, ?_⟩
      obtain ⟨t, ht⟩ := hc
      rw [← ht]
      rw [List.length_singleton, ← List.drop_drop, ← ht] at hp
      exact (List.prefix_cons_inj c).2 hp
    · rintro ⟨m, rfl, hs, hp⟩
      obtain ⟨t, ht⟩ := hp
      refine ⟨m + 1, by simp; omega, (testBit_image_literal text size [c] s (m + 1)).2
        ⟨m, rfl, hs, ?_⟩, ?_⟩
      · rw [← ht]
        exact ⟨d :: k ++ t, rfl⟩
      · rw [← List.drop_drop, ← ht]
        exact ⟨t, rfl⟩

theorem image_literal_ne_zero (text : List Char) (size : Nat) (k : String) (s : Places) :
    ((literal k).over text).image size s ≠ 0 ↔
      ∃ i, Nat.testBit s i = true ∧ k.toList <+: text.drop i := by
  rw [Places.ne_zero_iff]
  constructor
  · rintro ⟨j, hj⟩
    obtain ⟨i, -, hi⟩ := (testBit_image_literal text size k.toList s j).1 hj
    exact ⟨i, hi⟩
  · rintro ⟨i, hi⟩
    exact ⟨i + k.toList.length, (testBit_image_literal text size k.toList s _).2 ⟨i, rfl, hi⟩⟩

/-- A word ends somewhere in a text exactly if it occurs in it. -/
theorem image_literal_all (text : List Char) (k : String) :
    ((literal k).over text).image text.length (Places.all text.length) ≠ 0 ↔
      k.toList <:+: text := by
  rw [image_literal_ne_zero]
  constructor
  · rintro ⟨i, -, hp⟩
    exact hp.isInfix.trans (List.drop_suffix i text).isInfix
  · rintro ⟨u, v, rfl⟩
    refine ⟨u.length, ?_, ?_⟩
    · rw [Places.testBit_all, decide_eq_true_eq]
      simp
    · rw [List.append_assoc, List.drop_left]
      exact List.prefix_append _ _

end Regex

/-- **What makes a token a variable**: a `$` at its start, or `map-get`, `@` or `var` anywhere. -/
theorem Value.isVariable_iff (t : Bytes) : isVariable t = true ↔
    "$".toList <+: t.chars ∨ "map-get".toList <:+: t.chars ∨ "@".toList <:+: t.chars ∨
      "var".toList <:+: t.chars := by
  have hstart : ∀ cs : List Char, Places.asserted .textStart none cs = 1 := by
    have hrest : ∀ (cs : List Char) (c : Char), Places.asserted .textStart (some c) cs = 0 := by
      intro cs
      induction cs with
      | nil => intro c; rfl
      | cons d cs ih => intro c; simp [Places.asserted, Assertion.holds, ih]
    intro cs
    cases cs with
    | nil => rfl
    | cons c cs => simp [Places.asserted, Assertion.holds, hrest]
  have hfirst : (((Regex.seq (.assertion .textStart) (.literal "$")).over t.chars).image
      t.chars.length (Places.all t.chars.length)) ≠ 0 ↔ "$".toList <+: t.chars := by
    show ((Regex.literal "$").over t.chars).image t.chars.length
      (Places.all t.chars.length &&& Places.asserted .textStart none t.chars) ≠ 0 ↔ _
    rw [hstart, Regex.image_literal_ne_zero]
    constructor
    · rintro ⟨i, hi, hp⟩
      obtain rfl : i = 0 := by
        rw [Nat.testBit_and, Bool.and_eq_true] at hi
        exact Nat.testBit_one_eq_true_iff_self_eq_zero.1 hi.2
      simpa using hp
    · intro hp
      exact ⟨0, by rw [Nat.testBit_and, Places.testBit_all]; simp, by simpa using hp⟩
  have hor : ∀ a b : Nat, a ||| b ≠ 0 ↔ a ≠ 0 ∨ b ≠ 0 := by
    intro a b
    rw [Ne, Nat.or_eq_zero_iff]
    omega
  rw [isVariable, Regex.test, Regex.matchesChars, bne_iff_ne]
  show ((_ : Nat) ||| (_ ||| (_ ||| _))) ≠ 0 ↔ _
  rw [hor, hor, hor, hfirst, Regex.image_literal_all, Regex.image_literal_all]
  exact or_congr_right (or_congr_right (or_congr_right (Regex.image_literal_all t.chars "var")))

/-! ## Tokens of several fields -/

namespace Value

open Bytes

/-- **A token is a variable if its fields are.** It starts as the first of them does, so a `$` stays
at the start, and it holds what they hold. -/
theorem isVariable_of_runs {u : List Char} (hu : StartsSolid u)
    (h : ∀ run ∈ runsBetween isBlank u, isVariable (ofChars run) = true) :
    isVariable (ofChars u) = true := by
  obtain ⟨c, hc, hblank⟩ := hu
  cases u with
  | nil => cases hc
  | cons d rest =>
    obtain rfl : d = c := Option.some.inj hc
    obtain ⟨run, runs, hruns, hprefix⟩ := exists_runsBetween hblank rest
    have hfirst := h (d :: run) (by simp [hruns])
    have hstart : d :: run <+: d :: rest := List.cons_prefix_cons.2 ⟨rfl, hprefix⟩
    rw [isVariable_iff, chars_ofChars] at hfirst ⊢
    rcases hfirst with hdollar | hget | hat | hvar
    · exact .inl (hdollar.trans hstart)
    · exact .inr (.inl (hget.trans hstart.isInfix))
    · exact .inr (.inr (.inl (hat.trans hstart.isInfix)))
    · exact .inr (.inr (.inr (hvar.trans hstart.isInfix)))

theorem isVariable_of_mem_tokens {s t : Bytes} (h : ∀ f ∈ s.fields, isVariable f = true)
    (ht : t ∈ tokens s) : isVariable t = true := by
  obtain ⟨u, hu, rfl, hsolid⟩ := mem_tokens ht
  refine isVariable_of_runs hsolid fun run hrun => ?_
  -- the runs of the token are characters of fields
  have hmem : run ∈ runsBetween isBlank s.chars := by
    rw [← flatMap_runs_splitFrom]
    exact List.mem_flatMap.2 ⟨u, hu, hrun⟩
  rw [runsBetween_chars] at hmem
  obtain ⟨f, hf, rfl⟩ := List.mem_map.1 hmem
  rw [isVariable_ofChars_chars]
  exact h f hf

end Value

/-- **Judging tokens rejects nothing that judging fields accepts.** If all fields of the normalized
value are variables, so are its tokens, and there are no literals. Without quotes the converse
holds. -/
theorem Verdict.judge_of_variable_fields (exceptions : Option Pattern) (property value : Bytes) :
    ((∀ f ∈ (Value.normalize property value).fields, Value.isVariable f = true) →
      (judge exceptions property value).allVariables = true ∧
        (judge exceptions property value).literals = []) ∧
    ((∀ c ∈ (Value.normalize property value).chars, Value.isQuote c = false) →
      (judge exceptions property value).allVariables = true →
        ∀ f ∈ (Value.normalize property value).fields, Value.isVariable f = true) := by
  have hall : (judge exceptions property value).allVariables =
      (judge exceptions property value).literals.isEmpty := rfl
  have hliterals : (judge exceptions property value).literals =
      literalsOf (Value.normalize property value) := rfl
  rw [hall, hliterals, List.isEmpty_iff]
  constructor
  · intro hfields
    have hnone : literalsOf (Value.normalize property value) = [] := by
      rw [literalsOf, List.filter_eq_nil_iff]
      intro t ht
      simp [Value.isVariable_of_mem_tokens hfields ht]
    exact ⟨hnone, hnone⟩
  · intro hquotes hnone f hf
    rw [literalsOf_eq hquotes, List.map_eq_nil_iff, List.filter_eq_nil_iff] at hnone
    simpa using hnone f hf

theorem Verdict.judge_of_variable_fields_quoted :
    (Value.normalize "color" "$a '@b  c@' var(--d)").fields =
        (["$a", "'@b", "c@'", "var(--d)"] : List Bytes) ∧
      (judge none "color" "$a '@b  c@' var(--d)").allVariables = true ∧
      (judge none "color" "$a '@b  c@' var(--d)").literals = [] ∧
      Value.tokens "$a '@b  c@' var(--d)" = (["$a '@b  c@'", "var(--d)"] : List Bytes) := by
  have hfields : (Value.normalize "color" "$a '@b  c@' var(--d)").fields =
      (["$a", "'@b", "c@'", "var(--d)"] : List Bytes) := by decide
  obtain ⟨hall, hnone⟩ := (judge_of_variable_fields none "color" "$a '@b  c@' var(--d)").1
    (by rw [hfields]; decide)
  exact ⟨hfields, hall, hnone, by decide⟩

end VarLint
