import VarLint.Disk.Basic
import VarLint.Regex.Image
import VarLint.Regex.Parse

/-!
# Ignore files

Each line of an ignore file is turned into a regular expression over paths. The last line that
matches a path decides: it is ignored, unless that line is negated.
-/

namespace VarLint.Ignore

/-- The expression of one line, and whether the line takes paths back in. -/
structure Line where
  regex : Regex
  negated : Bool
  deriving DecidableEq, Repr

/-- A directory that is neither `/` nor `+`, and below it a star before a dot. -/
def starredFile : Regex :=
  .sequence
    [.char ⟨true, false, [.interval 0x2F 0x2F, .interval 0x2B 0x2B]⟩, .literal "/",
      .star (.char .anyButNewline), .literal "*."]

/-- Stands for a star that is not to be replaced again. -/
def starMark : Bytes := "#$~"

/-- The text of the expression of a line without its marks of negation: dots and question marks are
escaped, double stars stand for any directories, and single stars for anything within one. -/
def expressionOf (line : Bytes) : Bytes :=
  let line : Bytes :=
    if starredFile.test line && line.head? != some Path.slash then "/" ++ line else line
  let line := Bytes.replaceAll "." "\\." line
  let line := if (Bytes.ofString "/**/").isPrefixOf line then line.drop 1 else line
  let line := Bytes.replaceAll "/**/" "(/|/.+/)" line
  let line := Bytes.replaceAll "**/" ("(|." ++ starMark ++ "/)") line
  let line := Bytes.replaceAll "/**" ("(|/." ++ starMark ++ ")") line
  let line := Bytes.replaceAll "\\*" ("\\" ++ starMark) line
  let line := Bytes.replaceAll "*" "([^/]*)" line
  let line := Bytes.replaceAll "?" "\\?" line
  let line := Bytes.replaceAll starMark "*" line
  let ended : Bytes := line ++ (if line.getLast? == some Path.slash then "(|.*)$" else "(|/.*)$")
  if ended.head? == some Path.slash then "^(|/)" ++ ended.drop 1 else "^(|.*/)" ++ ended

/-- Reads one line. Comments, empty lines and lines without a well-formed expression are nothing. -/
def Line.read? (text : Bytes) : Option Line :=
  let line := Bytes.dropRightWhile (· == 0x0D) text
  if line.head? == some 0x23 then none
  else
    let line := Bytes.dropRightWhile (· == 0x20) (line.dropWhile (· == 0x20))
    if line.isEmpty then none
    else
      let negated := line.head? == some 0x21
      let line := if negated then line.drop 1 else line
      let line := if line.head?.any (fun b => b == 0x23 || b == 0x21) then line.drop 1 else line
      (Regex.parse (expressionOf line)).toOption.map fun regex => ⟨regex, negated⟩

/-- The lines of an ignore file. -/
def read (content : Bytes) : List Line := (content.splitOn 0x0A).filterMap Line.read?

/-- The name of the ignore file. -/
def fileName : Bytes := ".gitignore"

/-- The lines of the ignore file in the working directory; none if it cannot be read. -/
def load (disk : Disk) : List Line :=
  match disk.read fileName with
  | .ok content => read content
  | .error _ => []

/-- Whether a path is ignored: the last line that matches it is not negated. -/
def ignores (lines : List Line) (path : Bytes) : Bool :=
  match lines.reverse.find? fun l => l.regex.test path with
  | some l => !l.negated
  | none => false

end VarLint.Ignore
