import VarLint.Numeral
import VarLint.Tally

/-!
# Setting values

The values that settings can have, whether they come from a file, from the environment or from the
command line, and how each is read as text, list, truth value or number. A value of another kind
than the wanted one is read through its text.
-/

namespace VarLint.Config

/-- The value of a setting, or a table of settings. -/
inductive Value where
  | null
  | bool (b : Bool)
  | integer (n : Int)
  | float (x : Float)
  | text (s : Bytes)
  | list (items : List Value)
  | table (entries : List (Bytes × Value))

namespace Value

/-- Floating-point numbers are written with an exponent from a million on and below a
ten-thousandth. -/
def floatLayout : Decimal.Layout := ⟨-4, 6, 2⟩

/-- Fields in byte order of their names. -/
def sortFields (fields : List (Bytes × Bytes)) : List (Bytes × Bytes) :=
  fields.mergeSort fun a b => Tally.bytesLe a.1 b.1

mutual

/-- A value as text. -/
def print : Value → Bytes
  | null => "<nil>"
  | bool b => if b then "true" else "false"
  | integer n => .ofInt n
  | float x => floatLayout.render x
  | text s => s
  | list items => "[" ++ Bytes.join " " (printItems items) ++ "]"
  | table entries =>
    let fields := (sortFields (printEntries entries)).map fun (name, s) =>
      name ++ Bytes.ofString ":" ++ s
    "map[" ++ Bytes.join " " fields ++ "]"

/-- The texts of a list's items. -/
def printItems : List Value → List Bytes
  | [] => []
  | v :: vs => v.print :: printItems vs

/-- The names of a table's entries with their texts. -/
def printEntries : List (Bytes × Value) → List (Bytes × Bytes)
  | [] => []
  | (name, v) :: rest => (name, v.print) :: printEntries rest

end

/-- A value read as text; no value is the empty text. -/
def asText : Value → Bytes
  | null => []
  | v => v.print

/-- A value read as a list of texts; what is no list is the empty one. -/
def asTexts : Value → List Bytes
  | list items => printItems items
  | _ => []

/-- A value read as a truth value; what is none is false. -/
def asBool : Value → Bool
  | null => false
  | bool b => b
  | v => (Numeral.bool? v.print).getD false

/-- A value read as a floating-point number; what is none is zero. -/
def asFloat : Value → Float
  | null => 0
  | float x => x
  | v => (Numeral.float? v.print).getD 0

/-- A value read as an integer; what is none is zero, and a fraction is cut off. -/
def asInt : Value → Int
  | null => 0
  | integer n => if Numeral.isWord n then n else Numeral.truncate (asFloat (integer n))
  | v =>
    match Numeral.float v.print with
    | .ok x => Numeral.truncate x
    | .error _ => 0

end Value

end VarLint.Config
