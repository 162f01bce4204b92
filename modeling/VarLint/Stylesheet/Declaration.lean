import VarLint.Regex.Leftmost
import VarLint.Stylesheet.Lexer
import VarLint.Stylesheet.LineComment
import VarLint.Text.Blank

/-!
# Declarations

A declaration is a name at the start of a statement, a colon, and a value that runs to a semicolon,
a closing brace or the end of the text. What turns out to end in an opening brace was a selector.
Parentheses and interpolations `#{…}` may hold semicolons and braces of their own.
-/

namespace VarLint.Stylesheet

/-- A place in a text, both numbers counted from one, columns in bytes. -/
structure Position where
  line : Nat
  column : Nat
  deriving DecidableEq, Repr

namespace Position

/-- The place behind one byte. -/
def step (p : Position) (b : UInt8) : Position :=
  if b == 0x0A then ⟨p.line + 1, 1⟩ else ⟨p.line, p.column + 1⟩

/-- The place behind a text. -/
def advance (p : Position) (text : Bytes) : Position := text.foldl step p

end Position

/-- A name with the place where it starts. -/
structure Name where
  text : Bytes
  position : Position
  deriving DecidableEq, Repr

/-- The value collected so far behind a name and its colon: its text, the depths of parentheses and
interpolations, and whether its last token was a lone `#`. -/
structure Body where
  text : Bytes := []
  parens : Nat := 0
  interpolations : Nat := 0
  afterHash : Bool := false
  deriving DecidableEq, Repr

/-- What the next token meets: the start of a statement, the rest of one that is no declaration, a
name that waits for its colon, or a value. -/
inductive Phase where
  | start
  | rest
  | named (name : Name)
  | value (name : Name) (body : Body)
  deriving DecidableEq, Repr

/-- Whether a statement may start behind the token. -/
def endsStatement (kind : TokenKind) : Bool :=
  kind == .leftBrace || kind == .rightBrace || kind == .semicolon

/-- The phase behind a token that belongs to no declaration. -/
def phaseAfter (kind : TokenKind) : Phase := if endsStatement kind then .start else .rest

/-- The body with a token added to it. -/
def Body.add (body : Body) (t : Token) : Body :=
  { body with text := body.text ++ t.text, afterHash := t.kind == .delim && t.text == "#" }

/-- What a token does to a value: it continues with the given body, it completes the declaration, or
it shows that there was none. -/
inductive BodyStep where
  | continues (body : Body)
  | completes
  | cancels
  deriving DecidableEq, Repr

/-- Feeds a token to a value. -/
def Body.step (body : Body) (t : Token) : BodyStep :=
  match t.kind with
  | .comment => .continues body
  | .function | .leftParen => .continues ({ body with parens := body.parens + 1 }.add t)
  | .rightParen => .continues ({ body with parens := body.parens - 1 }.add t)
  | .leftBrace =>
    if body.afterHash then
      .continues ({ body with interpolations := body.interpolations + 1 }.add t)
    else if body.parens == 0 then .cancels
    else .continues (body.add t)
  | .rightBrace =>
    if 0 < body.interpolations then
      .continues ({ body with interpolations := body.interpolations - 1 }.add t)
    else .completes
  | .semicolon =>
    if body.parens == 0 && body.interpolations == 0 then .completes
    else .continues (body.add t)
  | _ => .continues (body.add t)

/-- Feeds a token that starts at `position`: the next phase, and the name and text of the
declaration that it completes. -/
def Phase.step (phase : Phase) (position : Position) (t : Token) :
    Phase × Option (Name × Bytes) :=
  match phase with
  | .value name body =>
    match body.step t with
    | .continues body => (.value name body, none)
    | .completes => (.start, some (name, body.text))
    | .cancels => (.start, none)
  | _ =>
    if t.kind == .whitespace || t.kind == .comment then (phase, none)
    else match phase with
      | .named name =>
        if t.kind == .colon then (.value name {}, none) else (phaseAfter t.kind, none)
      | .start =>
        if t.kind == .ident || t.kind == .customName then (.named ⟨t.text, position⟩, none)
        else (phaseAfter t.kind, none)
      | _ => (phaseAfter t.kind, none)

/-- The names and texts of the declarations in a token stream; one open at the end counts. -/
def bodies : Phase → Position → List Token → List (Name × Bytes)
  | .value name body, _, [] => [(name, body.text)]
  | _, _, [] => []
  | phase, position, t :: ts =>
    let (next, completed) := phase.step position t
    completed.toList ++ bodies next (position.advance t.text) ts

/-- The flag at the end of a value, in any letter case. -/
def importantFlag : Regex :=
  .sequence
    [.star .space, .literal "!", .star .space, .caseless "important", .star .space,
      .assertion .textEnd]

/-- The value that a collected text stands for, without blanks around it and without its flag, and
whether it had the flag. -/
def valueOf (text : Bytes) : Bytes × Bool :=
  let value := text.trim
  match importantFlag.beforeFirst? value with
  | some before => (before.trim, true)
  | none => (value, false)

end VarLint.Stylesheet

namespace VarLint

/-- A declaration found in a style sheet. -/
structure Declaration where
  property : Bytes
  value : Bytes
  important : Bool
  file : Bytes
  position : Stylesheet.Position
  /-- The line that holds the name. -/
  lineText : Bytes
  deriving DecidableEq, Repr

namespace Stylesheet

/-- The line without one carriage return at its end. -/
def withoutReturn (line : Bytes) : Bytes :=
  if line.getLast? == some 0x0D then line.dropLast else line

/-- The text that is cut into tokens. -/
def codeOf (filename content : Bytes) : Bytes :=
  if hasLineComments filename then LineComment.mask content else content

/-- The declarations of a style sheet. -/
def declarations (filename content : Bytes) : List Declaration :=
  let lines := (content.splitOn 0x0A).toArray
  (bodies .start ⟨1, 1⟩ (tokens (codeOf filename content))).map fun (name, text) =>
    let (value, important) := valueOf text
    { property := name.text, value, important, file := filename, position := name.position
      lineText := withoutReturn (lines[name.position.line - 1]?.getD []) }

end Stylesheet

end VarLint
