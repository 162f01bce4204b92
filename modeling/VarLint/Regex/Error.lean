import VarLint.Text.Bytes

/-!
# Malformed expressions

Why a text is not a regular expression. Each error carries the part of the text at fault.
-/

namespace VarLint.Regex

/-- The ways in which the text of an expression can be malformed. -/
inductive Fault where
  | missingParen
  | unexpectedParen
  | missingBracket
  | missingRepeatArgument
  | repeatCount
  | nestedRepeat
  | trailingBackslash
  | escape
  | groupSyntax
  | captureName
  | classRange
  | malformedText
  | tooDeep
  deriving DecidableEq, Repr

/-- A fault with the part of the expression that shows it. -/
structure Error where
  fault : Fault
  part : Bytes
  deriving DecidableEq, Repr

/-- A fault in words. -/
def Fault.reason : Fault → String
  | missingParen => "missing closing )"
  | unexpectedParen => "unexpected )"
  | missingBracket => "missing closing ]"
  | missingRepeatArgument => "missing argument to repetition operator"
  | repeatCount => "invalid repeat count"
  | nestedRepeat => "invalid nested repetition operator"
  | trailingBackslash => "trailing backslash at end of expression"
  | escape => "invalid escape sequence"
  | groupSyntax => "invalid or unsupported Perl syntax"
  | captureName => "invalid named capture"
  | classRange => "invalid character class range"
  | malformedText => "invalid UTF-8"
  | tooDeep => "expression nests too deeply"

/-- The text of an error: the reason and, between backquotes, the part at fault. -/
def Error.message (e : Error) : Bytes :=
  "error parsing regexp: " ++ e.fault.reason ++ ": \x60" ++ e.part ++ "\x60"

end VarLint.Regex
