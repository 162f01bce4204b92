import VarLint.Text.Rune

/-!
# Places in a document

A cursor is the rest of a document together with the line and the column where it begins. Lines end
at a line feed, a carriage return, both, or one of the Unicode separators.
-/

namespace VarLint.Yaml

/-- Whether a character can stand in a document. -/
def isAllowed (c : Char) : Bool :=
  let n := c.toNat
  n == 0x09 || n == 0x0A || n == 0x0D || (0x20 ≤ n && n ≤ 0x7E) || n == 0x85
    || (0xA0 ≤ n && n ≤ 0xD7FF) || (0xE000 ≤ n && n ≤ 0xFFFD) || 0x10000 ≤ n

/-- Whether a character ends a line. -/
def isBreak (c : Char) : Bool :=
  let n := c.toNat
  n == 0x0A || n == 0x0D || n == 0x85 || n == 0x2028 || n == 0x2029

/-- Whether a character separates words within a line. -/
def isSpacing (c : Char) : Bool := c == ' ' || c == '\t'

/-- Whether a character can stand in a name. -/
def isNameChar (c : Char) : Bool := c.isAlphanum || c == '_' || c == '-'

/-- The rest of a document and where it begins; `index` counts the characters before it. -/
structure Cursor where
  rest : List Char
  index : Nat := 0
  line : Nat := 0
  column : Nat := 0

namespace Cursor

/-- The character `n` places on. -/
def at? (c : Cursor) (n : Nat) : Option Char := c.rest[n]?

/-- Whether a given character stands `n` places on. -/
def sees (c : Cursor) (n : Nat) (char : Char) : Bool := c.at? n == some char

/-- Whether the document has ended. -/
def atEnd (c : Cursor) : Bool := c.rest.isEmpty

/-- Whether a character with the property stands here. -/
def holds (c : Cursor) (p : Char → Bool) : Bool := c.rest.head?.any p

/-- Whether a line break or the end of the document stands here. -/
def atLineEnd (c : Cursor) : Bool := c.atEnd || c.holds isBreak

/-- Whether spacing, a line break or the end of the document stands `n` places on. -/
def gapAt (c : Cursor) (n : Nat) : Bool :=
  match c.at? n with
  | none => true
  | some char => isSpacing char || isBreak char

/-- The cursor `n` characters further in the same line. -/
def skip (c : Cursor) (n : Nat) : Cursor :=
  { c with rest := c.rest.drop n, index := c.index + n, column := c.column + n }

/-- The characters with the property that stand here, and the cursor after them. -/
def takeWhile (c : Cursor) (p : Char → Bool) : List Char × Cursor :=
  let taken := c.rest.takeWhile p
  (taken, c.skip taken.length)

/-- The cursor after the characters with the property that stand here. -/
def skipWhile (c : Cursor) (p : Char → Bool) : Cursor := (c.takeWhile p).2

/-- The line break that stands here, as it counts in a value, and the cursor after it. -/
def takeBreak (c : Cursor) : List Char × Cursor :=
  let next := fun (n : Nat) =>
    { c with rest := c.rest.drop n, index := c.index + n, line := c.line + 1, column := 0 }
  match c.rest with
  | [] => ([], c)
  | char :: rest =>
    if char == '\r' && rest.head? == some '\n' then (['\n'], next 2)
    else if char.toNat == 0x2028 || char.toNat == 0x2029 then ([char], next 1)
    else if isBreak char then (['\n'], next 1)
    else ([], c)

/-- The cursor after the line break that stands here. -/
def skipBreak (c : Cursor) : Cursor := c.takeBreak.2

/-- Whether three equal characters and then a gap stand at the start of this line. -/
def atMark (c : Cursor) (char : Char) : Bool :=
  c.column == 0 && c.sees 0 char && c.sees 1 char && c.sees 2 char && c.gapAt 3

/-- Whether the start or the end of a document is marked here. -/
def atDocumentMark (c : Cursor) : Bool := c.atMark '-' || c.atMark '.'

end Cursor

/-- The characters of a document without a byte order mark; `none` if some are not allowed. -/
def documentChars? (content : Bytes) : Option (List Char) :=
  let chars := content.chars
  let body := if chars.head? == some (Char.ofNat 0xFEFF) then chars.drop 1 else chars
  if content.isWellFormed && body.all isAllowed then some body else none

end VarLint.Yaml
