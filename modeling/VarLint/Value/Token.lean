import VarLint.Regex.Image
import VarLint.Text.Blank

/-!
# Tokens of a value

A value is split at blanks, except inside quotes and before an opening quote, so a call with a
quoted argument stays one token. A token is a variable reference if it uses one of the variable
notations of the style languages.
-/

namespace VarLint.Value

/-- Whether a character opens and closes a quoted run. -/
def isQuote (c : Char) : Bool := c == '\'' || c == '"'

/-- Splits the characters behind an unfinished token. `current` holds that token and `pending` the
blanks after it, both with the latest character first; `quote` is the quote that is open. -/
def splitFrom (current pending : List Char) (quote : Option Char) : List Char → List (List Char)
  | [] => if current.isEmpty then [] else [current.reverse]
  | c :: rest =>
    match quote with
    | some q => splitFrom (c :: current) [] (if c == q then none else some q) rest
    | none =>
      if isBlank c then splitFrom current (c :: pending) none rest
      else if isQuote c then
        splitFrom (c :: (if current.isEmpty then [] else pending ++ current)) [] (some c) rest
      else if pending.isEmpty then splitFrom (c :: current) [] none rest
      else if current.isEmpty then splitFrom [c] [] none rest
      else current.reverse :: splitFrom [c] [] none rest

/-- The tokens of a value. -/
def tokens (value : Bytes) : List Bytes :=
  (splitFrom [] [] none value.chars).map Bytes.ofChars

/-- The notations of variables: a leading `$`, and anywhere `map-get`, `@` or `var`. -/
def variableNotation : Regex :=
  .choice
    [.seq (.assertion .textStart) (.literal "$"), .literal "map-get", .literal "@", .literal "var"]

/-- Whether a token refers to a variable. -/
def isVariable (token : Bytes) : Bool := variableNotation.test token

end VarLint.Value
