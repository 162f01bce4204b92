import VarLint.Path

/-!
# Line comments

Some style languages allow comments from `//` to the end of the line. They are blanked out before
the text is cut into tokens: each byte of such a comment but carriage returns becomes a space, so
every other byte keeps its place. Strings, block comments and text in parentheses are left alone.
-/

namespace VarLint.Stylesheet

/-- Whether the file's language has line comments, by its extension. -/
def hasLineComments (filename : Bytes) : Bool :=
  let extension := (Path.extension filename).toLower
  extension == ".scss" || extension == ".less"

namespace LineComment

/-- Where a byte stands: in code at some depth of parentheses, in a string, behind a backslash in a
string, on the second byte that opens a block comment, inside one, on the last byte that closes it,
or in a line comment. -/
inductive Region where
  | code
  | quoted (mark : UInt8)
  | escaped (mark : UInt8)
  | blockStart
  | block
  | blockEnd
  | line
  deriving DecidableEq, Repr

/-- What becomes of one byte with `next` behind it: the byte to write, and the region and the depth
of parentheses of the next byte. -/
def step (region : Region) (depth : Nat) (b : UInt8) (next : Option UInt8) :
    UInt8 × Region × Nat :=
  match region with
  | .code =>
    if b == 0x22 || b == 0x27 then (b, .quoted b, depth)
    else if b == 0x28 then (b, .code, depth + 1)
    else if b == 0x29 then (b, .code, depth - 1)
    else if b == 0x2F && next == some 0x2A then (b, .blockStart, depth)
    else if b == 0x2F && next == some 0x2F && depth == 0 then (0x20, .line, depth)
    else (b, .code, depth)
  | .quoted mark =>
    if b == 0x5C then (b, .escaped mark, depth)
    else if b == mark || b == 0x0A then (b, .code, depth)
    else (b, .quoted mark, depth)
  | .escaped mark => (b, .quoted mark, depth)
  | .blockStart => (b, .block, depth)
  | .block => if b == 0x2A && next == some 0x2F then (b, .blockEnd, depth) else (b, .block, depth)
  | .blockEnd => (b, .code, depth)
  | .line =>
    if b == 0x0A then (b, .code, depth)
    else (if b == 0x0D then b else 0x20, .line, depth)

/-- Blanks the line comments of a text that starts in the given region. -/
def maskFrom : Region → Nat → Bytes → Bytes
  | _, _, [] => []
  | region, depth, b :: s =>
    let (b, region, depth) := step region depth b s.head?
    b :: maskFrom region depth s

/-- Blanks the line comments of a text. -/
def mask (s : Bytes) : Bytes := maskFrom .code 0 s

end LineComment

end VarLint.Stylesheet
