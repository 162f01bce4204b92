import VarLint.Proofs.Accounting
import VarLint.Proofs.VariableTokens

/-!
# Wider exceptions

Two rules with the same target judge the same declarations and find the same literals in them. Only
what the exceptions allow differs.

* `accepted_judge`: the exceptions decide field by field. A value without fields passes for its
  variables, so it does not matter that a pattern allows it and no pattern does not.
* `accepted_of_widens`: so what passes under some exceptions passes under wider ones (`Widens`).
* `issuesOf_sublist`: the issues under wider exceptions are some of those under narrower ones,
  unchanged.
* `ofDeclarations_widens`: **widening the exceptions only removes issues**, and what is no longer
  counted as a violation is counted as allowed.
-/

namespace VarLint

namespace Pattern

/-- Whether exceptions allow a token; where there are none, no token is allowed. -/
def allows (exceptions : Option Pattern) (token : Bytes) : Bool :=
  exceptions.any fun p => p.test token

/-- The exceptions `wide` allow every token of a value that `narrow` allows. -/
def Widens (narrow wide : Option Pattern) : Prop :=
  ∀ value : Bytes, ∀ token ∈ value.fields, allows narrow token = true → allows wide token = true

/-- A pattern with one more alternative is wider. -/
theorem widens_alt (narrow wide : Pattern) {other : Regex}
    (h : wide.regex = .alt narrow.regex other) :
    Widens (some narrow) (some wide) := by
  intro value token _ hallowed
  simp only [allows, Option.any_some, test, Regex.test, Regex.matchesChars,
    bne_iff_ne] at hallowed ⊢
  rw [h, Regex.over, Overlay.image, ne_eq, Nat.or_eq_zero_iff]
  exact fun hboth => hallowed hboth.1

end Pattern

open Pattern

/-! ## Verdicts -/

namespace Verdict

variable (property value : Bytes)

/-- A value without fields has no literals. -/
theorem allVariables_of_no_fields (exceptions : Option Pattern)
    (h : (Value.normalize property value).fields = []) :
    (judge exceptions property value).allVariables = true := by
  have hliterals : (judge exceptions property value).allVariables =
      (literalsOf (Value.normalize property value)).isEmpty := rfl
  rw [hliterals, List.isEmpty_iff, literalsOf, List.filter_eq_nil_iff]
  intro t ht
  simp [Value.isVariable_of_mem_tokens (by simp [h]) ht]

/-- **Exceptions decide field by field.** -/
theorem accepted_judge (exceptions : Option Pattern) : (judge exceptions property value).accepted =
    ((judge none property value).allVariables ||
      (Value.normalize property value).fields.all (allows exceptions)) := by
  have hall : (judge exceptions property value).allVariables =
      (judge none property value).allVariables := rfl
  rw [accepted, hall]
  cases hfields : (Value.normalize property value).fields with
  | nil => rw [allVariables_of_no_fields property value none hfields, Bool.true_or, Bool.true_or]
  | cons token rest =>
    refine congrArg _ ?_
    have hexcepted : (judge exceptions property value).excepted =
        exceptions.any fun p => (Value.normalize property value).fields.all p.test := rfl
    rw [hexcepted, hfields]
    cases exceptions with
    | none => rfl
    | some p => rfl

variable {property value}

/-- **What passes under some exceptions passes under wider ones.** -/
theorem accepted_of_widens {narrow wide : Option Pattern} (h : Widens narrow wide)
    (haccepted : (judge narrow property value).accepted = true) :
    (judge wide property value).accepted = true := by
  rw [accepted_judge, Bool.or_eq_true, List.all_eq_true] at haccepted ⊢
  exact haccepted.imp_right fun hfields token htoken => h _ token htoken (hfields token htoken)

end Verdict

/-! ## Issues -/

namespace Findings

theorem violates_eq (rule : Rule) (d : Declaration) :
    violates rule d = (rule.checks d.property && !(verdictOn rule d).accepted) := by
  rw [violates, Verdict.accepted, Bool.not_or, Bool.and_assoc]

variable {narrow wide : Option Pattern} (h : Widens narrow wide) (target : Option Pattern)
include h

theorem violates_of_widens {d : Declaration} (hd : violates ⟨target, wide⟩ d = true) :
    violates ⟨target, narrow⟩ d = true := by
  rw [violates_eq, Bool.and_eq_true, Bool.not_eq_true'] at hd ⊢
  refine ⟨hd.1, Bool.eq_false_iff.2 fun haccepted => ?_⟩
  exact absurd (Verdict.accepted_of_widens h haccepted) (Bool.eq_false_iff.1 hd.2)

/-- **Fewer declarations are rejected, and their issues are the same.** -/
theorem issuesOf_sublist (severity : Bytes) (ds : List Declaration) :
    (issuesOf ⟨target, wide⟩ severity ds).Sublist (issuesOf ⟨target, narrow⟩ severity ds) :=
  (List.monotone_filter_right ds fun _ => violates_of_widens h target).map fun d =>
    Issue.of severity d (verdictOn ⟨target, narrow⟩ d)

/-- **Widening the exceptions only removes issues.** As many declarations are found, checked and
accepted for their variables, each other one is allowed or violates the rule as before or is allowed
now, and the issues that are left are issues as they were. -/
theorem ofDeclarations_widens (o : CheckOptions) (hmax : o.maxIssues ≤ 0) (hsame : o.maxSame ≤ 0)
    (ds : List Declaration) :
    let before := ofDeclarations ⟨target, narrow⟩ o ds
    let after := ofDeclarations ⟨target, wide⟩ o ds
    after.found = before.found ∧ after.checked = before.checked ∧
      after.acceptedByVariable = before.acceptedByVariable ∧
      after.acceptedByException + after.violations =
        before.acceptedByException + before.violations ∧
      after.issues.Sublist before.issues := by
  intro before after
  have hchecked : after.checked = before.checked :=
    (checked_eq_countP ⟨target, wide⟩ o ds).trans (checked_eq_countP ⟨target, narrow⟩ o ds).symm
  have hvariable : after.acceptedByVariable = before.acceptedByVariable :=
    (acceptedByVariable_eq ⟨target, wide⟩ o ds).trans
      (acceptedByVariable_eq ⟨target, narrow⟩ o ds).symm
  refine ⟨rfl, hchecked, hvariable, ?_, ?_⟩
  · have hbefore : before.checked =
        before.acceptedByVariable + before.acceptedByException + before.violations :=
        checked_eq _ o ds
    have hafter : after.checked =
        after.acceptedByVariable + after.acceptedByException + after.violations := checked_eq _ o ds
    omega
  · rw [issues_eq, issues_eq, limit_of_nonpos hmax hsame, limit_of_nonpos hmax hsame]
    exact issuesOf_sublist h target o.effectiveSeverity ds

omit h

private def colors : List Declaration :=
  Stylesheet.declarations "a.css"
    "a \x7b color: red; color: tan; color: tan blue; color: ; top: tan \x7d"

theorem ofDeclarations_widens_redOrTan :
    ∃ target narrow wide, Rule.ofLiterals "/color/" "/^red$/" = .ok ⟨some target, some narrow⟩ ∧
      Rule.ofLiterals "/color/" "/^red$|^tan$/" = .ok ⟨some target, some wide⟩ ∧
      Widens (some narrow) (some wide) ∧
      (ofDeclarations ⟨some target, some narrow⟩ {} colors).violations = 2 ∧
      (ofDeclarations ⟨some target, some wide⟩ {} colors).violations = 1 ∧
      (ofDeclarations ⟨some target, some wide⟩ {} colors).issues.Sublist
        (ofDeclarations ⟨some target, some narrow⟩ {} colors).issues := by
  obtain ⟨target, narrow, wide, hnarrow, hwide, halt, hbefore, hafter⟩ :
      ∃ target narrow wide, Rule.ofLiterals "/color/" "/^red$/" = .ok ⟨some target, some narrow⟩ ∧
        Rule.ofLiterals "/color/" "/^red$|^tan$/" = .ok ⟨some target, some wide⟩ ∧
        (∃ other, wide.regex = .alt narrow.regex other) ∧
        (ofDeclarations ⟨some target, some narrow⟩ {} colors).violations = 2 ∧
        (ofDeclarations ⟨some target, some wide⟩ {} colors).violations = 1 :=
    ⟨_, _, _, rfl, rfl, ⟨_, rfl⟩, by decide +kernel, by decide +kernel⟩
  obtain ⟨other, halt⟩ := halt
  have hwidens := widens_alt narrow wide halt
  obtain ⟨-, -, -, -, hsublist⟩ :=
    ofDeclarations_widens hwidens (some target) {} (Int.le_refl 0) (Int.le_refl 0) colors
  exact ⟨target, narrow, wide, hnarrow, hwide, hwidens, hbefore, hafter, hsublist⟩

end Findings

end VarLint
