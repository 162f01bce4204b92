import VarLint.Value.Verdict

/-!
# The rule

The rule demands variables for the properties that its target pattern selects, unless the exceptions
allow a value. A rule without target selects nothing.
-/

namespace VarLint

/-- The properties that need variables, and the values that are allowed without. -/
structure Rule where
  target : Option Pattern
  exceptions : Option Pattern
  deriving DecidableEq, Repr

namespace Rule

/-- The name of the rule in reports. -/
def name : Bytes := "enforce-variable"

/-- What is said about a rejected declaration of the property. -/
def complaint (property : Bytes) : Bytes := "Expected variable for " ++ property ++ "."

/-- Why a rule cannot be built. -/
inductive Error where
  | noProperties
  | properties (cause : Pattern.Error)
  | exceptions (cause : Pattern.Error)
  deriving DecidableEq, Repr

/-- The text of an error. -/
def Error.message : Error → Bytes
  | noProperties => "a properties pattern is required"
  | properties cause => "properties: " ++ cause.message
  | exceptions cause => "exceptionValues: " ++ cause.message

/-- The rule of two pattern literals; the literal of the exceptions may be empty. -/
def ofLiterals (properties exceptions : Bytes) : Except Error Rule :=
  if properties.isEmpty then .error .noProperties
  else match Pattern.parse properties with
    | .error cause => .error (.properties cause)
    | .ok target =>
      if exceptions.isEmpty then .ok ⟨some target, none⟩
      else match Pattern.parse exceptions with
        | .error cause => .error (.exceptions cause)
        | .ok allowed => .ok ⟨some target, some allowed⟩

/-- Whether declarations of the property are checked. -/
def checks (r : Rule) (property : Bytes) : Bool := r.target.any fun p => p.test property

/-- The verdict on a declaration, if it is checked. -/
def check? (r : Rule) (property value : Bytes) : Option Verdict :=
  if r.checks property then some (.judge r.exceptions property value) else none

end Rule

end VarLint
