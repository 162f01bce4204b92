import VarLint.Text.Bytes

/-!
# Tokens of stylesheets

The lexical classes of style sheet text. Every token carries its text, and the texts of the tokens
of a style sheet, one after the other, are the style sheet.
-/

namespace VarLint.Stylesheet

/-- The class of a token. -/
inductive TokenKind where
  | whitespace
  | comment
  | ident
  | customName
  | function
  | atKeyword
  | hash
  | string
  | badString
  | url
  | badUrl
  | number
  | unicodeRange
  | matcher
  | commentOpen
  | commentClose
  | colon
  | semicolon
  | comma
  | leftParen
  | rightParen
  | leftBracket
  | rightBracket
  | leftBrace
  | rightBrace
  | delim
  deriving DecidableEq, Repr

/-- A token with its text. -/
structure Token where
  kind : TokenKind
  text : Bytes
  deriving DecidableEq, Repr

end VarLint.Stylesheet
