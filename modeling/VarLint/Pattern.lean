import VarLint.Regex.Parse
import VarLint.Regex.Image
import VarLint.Text.Quoted

/-!
# Pattern literals

A pattern is configured as a literal `/body/flags`: the last slash ends the body, so the body may
hold slashes. The flags `i`, `m` and `s` apply to the whole expression; `g`, `u` and `y` mean
nothing for a single test and are accepted.
-/

namespace VarLint

/-- A compiled pattern with the text it was compiled from. -/
structure Pattern where
  source : Bytes
  regex : Regex
  deriving DecidableEq, Repr

namespace Pattern

/-- Why a literal is no pattern. -/
inductive Error where
  | notDelimited (literal : Bytes)
  | unknownFlag (literal : Bytes) (flag : Char)
  | malformed (literal : Bytes) (cause : Regex.Error)
  deriving DecidableEq, Repr

/-- The advice that ends the text of every error about delimiters. -/
def delimiterAdvice : Bytes := "pattern must be delimited like /pattern/"

/-- The text of an error. -/
def Error.message : Error → Bytes
  | notDelimited literal => literal.quote ++ ": " ++ delimiterAdvice
  | unknownFlag literal flag =>
    literal.quote ++ ": unknown flag " ++ quoteChar flag ++ ": " ++ delimiterAdvice
  | malformed literal cause => "compile pattern " ++ literal ++ ": " ++ cause.message

/-- The flags that change the meaning of an expression, each once, in order of first occurrence. The
first character that is no flag is an error; `active` holds the flags found so far. -/
def activeFlags (literal : Bytes) : List Char → List Char → Except Error (List Char)
  | active, [] => .ok active
  | active, f :: rest =>
    if f == 'i' || f == 'm' || f == 's' then
      activeFlags literal (if active.contains f then active else active ++ [f]) rest
    else if f == 'g' || f == 'u' || f == 'y' then activeFlags literal active rest
    else .error (.unknownFlag literal f)

/-- The body of a literal and its active flags. -/
def unwrap (literal : Bytes) : Except Error (Bytes × List Char) :=
  match literal with
  | [] => .error (.notDelimited literal)
  | first :: inside =>
    if first != 0x2F then .error (.notDelimited literal)
    else match Bytes.lastIndexOf? 0x2F inside with
      | none => .error (.notDelimited literal)
      | some i => do
        let flags ← activeFlags literal [] (Bytes.chars (inside.drop (i + 1)))
        return (inside.take i, flags)

/-- Whether the text has the form of a pattern literal. -/
def isDelimited (literal : Bytes) : Bool := (unwrap literal).isOk

/-- The text of the expression that a body with flags stands for. -/
def sourceOf (body : Bytes) (flags : List Char) : Bytes :=
  if flags.isEmpty then body else "(?" ++ Bytes.ofChars flags ++ ")" ++ body

/-- The pattern of a literal. -/
def parse (literal : Bytes) : Except Error Pattern := do
  let (body, flags) ← unwrap literal
  let source := sourceOf body flags
  match Regex.parse source with
  | .ok regex => return ⟨source, regex⟩
  | .error cause => .error (.malformed literal cause)

/-- Whether some part of the text matches. -/
def test (p : Pattern) (s : Bytes) : Bool := p.regex.test s

end Pattern

end VarLint
