import VarLint.CommandLine.Flag
import VarLint.Text.Rune

/-!
# Commands

The commands, the flags each takes, and which command the arguments name. Without a command the
files are linted. A name that is no command is answered with the commands it may have been meant
for.
-/

namespace VarLint.CommandLine

/-- The commands; `root` stands for none. -/
inductive Command where
  | root
  | lint
  | init
  | completion
  | version
  | help
  deriving DecidableEq, Repr

/-- The name of the program. -/
def programName : Bytes := "cssvars"

namespace Command

/-- The commands that have a name, in byte order. -/
def named : List Command := [completion, help, init, lint, version]

/-- The name of a command. -/
def name : Command → Bytes
  | root => programName
  | lint => "lint"
  | init => "init"
  | completion => "completion"
  | version => "version"
  | help => "help"

/-- The command of a name. -/
def ofName? (s : Bytes) : Option Command := named.find? fun c => c.name == s

/-! ## Flags -/

/-- The flag that names a configuration file. -/
def configFlag : Flag := ⟨"config", .text, none⟩

/-- The flags that all commands take. -/
def commonFlags : List Flag :=
  [⟨"verbose", .switch, some 0x76⟩, ⟨"quiet", .switch, none⟩, ⟨"log-level", .text, none⟩,
    ⟨"color", .switch, none⟩, configFlag]

/-- The flags of linting. -/
def lintFlags : List Flag :=
  [⟨"paths", .list, none⟩, ⟨"properties", .text, none⟩, ⟨"exception-values", .text, none⟩,
    ⟨"severity", .text, none⟩, ⟨"strict", .switch, none⟩, ⟨"threshold", .number, none⟩,
    ⟨"output-format", .text, none⟩, ⟨"max-issues-per-linter", .integer, none⟩,
    ⟨"max-same-issues", .integer, none⟩, ⟨"print-lines", .switch, none⟩,
    ⟨"print-linter-name", .switch, none⟩, ⟨"concurrency", .integer, none⟩, ⟨"watch", .switch, none⟩,
    ⟨"cache-size", .integer, none⟩]

/-- The flag that overwrites a configuration file. -/
def forceFlag : Flag := ⟨"force", .switch, none⟩

/-- The flag that asks for help. -/
def helpFlag : Flag := ⟨"help", .switch, some 0x68⟩

/-- The flags of a command, but for the one that asks for help. -/
def flags : Command → List Flag
  | root => commonFlags ++ lintFlags
  | lint => commonFlags ++ lintFlags
  | init => commonFlags ++ [forceFlag]
  | _ => commonFlags

/-! ## Finding the command -/

/-- Whether an argument is a flag whose value is the next argument. A flag that is not known counts
as one. -/
def takesNext (flags : List Flag) (a : Bytes) : Bool :=
  if a.contains equals then false
  else match a with
    | 0x2D :: 0x2D :: name => !(flags.find? fun f => f.name == name).any Flag.isSwitch
    | [0x2D, b] => !(flags.find? fun f => f.letter == some b).any Flag.isSwitch
    | _ => false

/-- Whether an argument starts with a dash. -/
def isDashed (a : Bytes) : Bool := a.head? == some dash

/-- Two dashes alone. -/
def endMark : Bytes := [dash, dash]

/-- The arguments that are neither flags nor their values. The search ends at a flag whose value is
the last argument. -/
def words (flags : List Flag) : List Bytes → List Bytes
  | [] => []
  | a :: rest =>
    if a == endMark then []
    else if takesNext flags a then
      match rest with
      | [] => []
      | [_] => []
      | _ :: b :: more => words flags (b :: more)
    else if a.isEmpty || isDashed a then words flags rest
    else a :: words flags rest

/-- The arguments without the first one that is a given word. -/
def withoutWord (flags : List Flag) (word : Bytes) : List Bytes → List Bytes
  | [] => []
  | a :: rest =>
    if a == endMark then a :: rest
    else if takesNext flags a then
      match rest with
      | [] => [a]
      | b :: more => a :: b :: withoutWord flags word more
    else if a == word && !isDashed a then rest
    else a :: withoutWord flags word rest

/-! ## Suggestions -/

/-- The next row of the table of distances: of the start of a word that ends with `b` from all
starts of another word. `corner` is the entry before the row above. -/
def distanceRow (b : UInt8) : Nat → Nat → Bytes → List Nat → List Nat
  | corner, left, c :: cs, above :: row =>
    let best := min (min above left + 1) (if b == c then corner else corner + 1)
    best :: distanceRow b above best cs row
  | _, _, _, _ => []

/-- The least number of bytes to be inserted, deleted or replaced to make one word another. -/
def distance (s t : Bytes) : Nat :=
  let first := List.range' 1 t.length
  let (rows, _) := s.foldl (fun (row, i) b => (distanceRow b i (i + 1) t row, i + 1)) (first, 0)
  rows.getLast?.getD s.length

/-- How far a command's name can be from a word it is suggested for. -/
def suggestionDistance : Nat := 2

/-- Whether a command is suggested for a word: it starts with the word or is close to it, in any
letter case. -/
def isSuggestedFor (word : Bytes) (c : Command) : Bool :=
  distance word.toLower c.name.toLower ≤ suggestionDistance
    || word.toLower.isPrefixOf c.name.toLower

/-- The commands suggested for a word. -/
def suggestions (word : Bytes) : List Command :=
  named.filter fun c => c ≠ .help && isSuggestedFor word c

/-- A suggestion in a line of its own. -/
def suggestionLine (c : Command) : Bytes := "\t" ++ c.name ++ "\n"

/-- The text that lists suggestions. -/
def suggestionText (word : Bytes) : Bytes :=
  let lines : Bytes := (suggestions word).flatMap suggestionLine
  if lines.isEmpty then [] else "\n\nDid you mean this?\n" ++ lines

/-- The command that the arguments name, with the other arguments; or a word that is no command. -/
def find (arguments : List Bytes) : Except Bytes (Command × List Bytes) :=
  match words root.flags arguments with
  | [] => .ok (root, arguments)
  | word :: _ =>
    match ofName? word with
    | some c => .ok (c, withoutWord root.flags word arguments)
    | none => .error word

end Command

end VarLint.CommandLine
