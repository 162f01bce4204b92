import VarLint.Pattern
import VarLint.Value.Shorthand
import VarLint.Value.Token

/-!
# Verdicts

The judgement on one value: which of its tokens are literals, whether it is built from variables
alone, and whether the exceptions allow it.
-/

namespace VarLint

/-- The judgement on a value. -/
structure Verdict where
  /-- The value as written. -/
  value : Bytes
  /-- The value without the parts of a shorthand that may stay literal. -/
  normalized : Bytes
  /-- The tokens that are no variable references. -/
  literals : List Bytes
  /-- Every token is a variable reference. -/
  allVariables : Bool
  /-- Every field matches the exceptions. -/
  excepted : Bool
  deriving DecidableEq, Repr

namespace Verdict

/-- Whether the value passes. -/
def accepted (v : Verdict) : Bool := v.allVariables || v.excepted

/-- The tokens of a normalized value that are no variable references. -/
def literalsOf (normalized : Bytes) : List Bytes :=
  (Value.tokens normalized).filter fun token => !Value.isVariable token

/-- Judges the value of a property. -/
def judge (exceptions : Option Pattern) (property value : Bytes) : Verdict :=
  let normalized := Value.normalize property value
  let literals := literalsOf normalized
  { value, normalized, literals
    allVariables := literals.isEmpty
    excepted := exceptions.any fun p => normalized.fields.all p.test }

end Verdict

end VarLint
