import VarLint.Text.Rune

/-!
# Regular expressions

Regular expressions without back-references and look-around. An expression consumes characters from
classes, asserts something about the place it has reached, and combines by sequence, ordered choice
and iteration.
-/

namespace VarLint

/-- One listed part of a character class: some spans, or all that is outside them. -/
structure ClassItem where
  complement : Bool
  spans : List Span
  deriving DecidableEq, Repr

/-- A character class: the union of its items, or the complement of that union. With `foldCase` an
item takes a character whenever its spans hold a case variant of it. -/
structure CharClass where
  negated : Bool
  foldCase : Bool
  items : List ClassItem
  deriving DecidableEq, Repr

namespace ClassItem

/-- The item of one interval of code points. -/
def interval (first last : Nat) : ClassItem := ⟨false, [⟨first, last, 1⟩]⟩

/-- Whether the item holds one of the code points, or none of them if it is a complement. -/
def contains (item : ClassItem) (codes : List Nat) : Bool :=
  item.complement != codes.any (Span.anyContains item.spans)

end ClassItem

namespace CharClass

/-- Whether the class takes a character. -/
def contains (k : CharClass) (c : Char) : Bool :=
  let codes := if k.foldCase then Case.variants c.toNat else [c.toNat]
  k.negated != k.items.any (fun item => item.contains codes)

/-- The class of one code point. -/
def single (foldCase : Bool) (code : Nat) : CharClass :=
  ⟨false, foldCase, [.interval code code]⟩

/-- Every character. -/
def any : CharClass := ⟨true, false, []⟩

/-- Every character but the line feed. -/
def anyButNewline : CharClass := ⟨true, false, [.interval 0x0A 0x0A]⟩

/-- The ASCII digits. -/
def digitItem : ClassItem := ⟨false, [⟨0x30, 0x39, 1⟩]⟩

/-- Tab, line feed, form feed, carriage return and space. -/
def spaceItem : ClassItem := ⟨false, [⟨0x09, 0x0A, 1⟩, ⟨0x0C, 0x0D, 1⟩, ⟨0x20, 0x20, 1⟩]⟩

/-- The ASCII letters, digits and the underscore. -/
def wordItem : ClassItem :=
  ⟨false, [⟨0x30, 0x39, 1⟩, ⟨0x41, 0x5A, 1⟩, ⟨0x5F, 0x5F, 1⟩, ⟨0x61, 0x7A, 1⟩]⟩

/-- A class of one item. -/
def ofItem (item : ClassItem) : CharClass := ⟨false, false, [item]⟩

end CharClass

/-- Whether a character is an ASCII letter, an ASCII digit or the underscore. -/
def isWordChar (c : Char) : Bool :=
  ('a' ≤ c && c ≤ 'z') || ('A' ≤ c && c ≤ 'Z') || ('0' ≤ c && c ≤ '9') || c == '_'

/-- What an expression can ask of a place in a text. -/
inductive Assertion where
  | textStart
  | textEnd
  | lineStart
  | lineEnd
  | wordBoundary
  | noWordBoundary
  deriving DecidableEq, Repr

namespace Assertion

/-- Whether the assertion holds between two neighbouring characters; `none` is an end of text. -/
def holds : Assertion → Option Char → Option Char → Bool
  | textStart, before, _ => before.isNone
  | textEnd, _, after => after.isNone
  | lineStart, before, _ => before.all (· == '\n')
  | lineEnd, _, after => after.all (· == '\n')
  | wordBoundary, before, after => before.any isWordChar != after.any isWordChar
  | noWordBoundary, before, after => before.any isWordChar == after.any isWordChar

end Assertion

/-- A regular expression. The first alternative of a choice is preferred. An iteration repeats its
body at least `least` times and at most `most` times, without bound for `none`, and prefers more
rounds if it is greedy and fewer if not. -/
inductive Regex where
  | empty
  | char (set : CharClass)
  | assertion (a : Assertion)
  | seq (first second : Regex)
  | alt (first second : Regex)
  | iterate (least : Nat) (most : Option Nat) (greedy : Bool) (body : Regex)
  deriving DecidableEq, Repr

namespace Regex

/-- The expressions one after another. -/
def sequence : List Regex → Regex
  | [] => .empty
  | [r] => r
  | r :: rs => .seq r (sequence rs)

/-- The first of the expressions that matches. -/
def choice : List Regex → Regex
  | [] => .char ⟨false, false, []⟩
  | [r] => r
  | r :: rs => .alt r (choice rs)

/-- Exactly the given characters. -/
def literal (s : String) : Regex :=
  sequence (s.toList.map fun c => .char (.single false c.toNat))

/-- Exactly the given characters, in any letter case. -/
def caseless (s : String) : Regex :=
  sequence (s.toList.map fun c => .char (.single true c.toNat))

/-- One digit. -/
def digit : Regex := .char (.ofItem CharClass.digitItem)

/-- One word character. -/
def wordChar : Regex := .char (.ofItem CharClass.wordItem)

/-- One white space character of ASCII, the vertical tab excepted. -/
def space : Regex := .char (.ofItem CharClass.spaceItem)

/-- Any number of rounds, preferring more. -/
def star (r : Regex) : Regex := .iterate 0 none true r

/-- One or more rounds, preferring more. -/
def plus (r : Regex) : Regex := .iterate 1 none true r

/-- At most one round, preferring one. -/
def opt (r : Regex) : Regex := .iterate 0 (some 1) true r

end Regex

end VarLint
