import VarLint.Tally
import VarLint.Text.Quoted

/-!
# Log lines

What the program says about its work, by level. A line names the level, the message and the fields
of an entry, fields in byte order of their names; text with anything but plain characters is quoted.
-/

namespace VarLint.Log

/-- The levels, the most serious first. -/
inductive Level where
  | panic
  | fatal
  | error
  | warning
  | info
  | debug
  | trace
  deriving DecidableEq, Repr

namespace Level

/-- All levels. -/
def all : List Level := [panic, fatal, error, warning, info, debug, trace]

/-- The name of a level. -/
def name : Level → Bytes
  | panic => "panic"
  | fatal => "fatal"
  | error => "error"
  | warning => "warning"
  | info => "info"
  | debug => "debug"
  | trace => "trace"

/-- The place of a level in the order of seriousness. -/
def rank : Level → Nat
  | panic => 0
  | fatal => 1
  | error => 2
  | warning => 3
  | info => 4
  | debug => 5
  | trace => 6

/-- The level of a name in any letter case. -/
def ofName? (s : Bytes) : Option Level :=
  let lowered := s.toLower
  if lowered == "warn" then some warning else all.find? fun l => l.name == lowered

end Level

/-- Something said, with named values. -/
structure Entry where
  level : Level
  message : Bytes
  fields : List (Bytes × Bytes) := []
  deriving DecidableEq, Repr

/-- Whether a byte can stand in a value without quotes. -/
def isPlain (b : UInt8) : Bool :=
  (0x61 ≤ b && b ≤ 0x7A) || (0x41 ≤ b && b ≤ 0x5A) || (0x30 ≤ b && b ≤ 0x39)
    || b == 0x2D || b == 0x2E || b == 0x5F || b == 0x2F || b == 0x40 || b == 0x5E || b == 0x2B

/-- A value as it is printed. -/
def value (s : Bytes) : Bytes := if s.all isPlain then s else s.quote

/-- A list as the text of a value. -/
def listText (items : List Bytes) : Bytes := "[" ++ Bytes.join " " items ++ "]"

/-- A truth value as text. -/
def boolText (b : Bool) : Bytes := if b then "true" else "false"

/-- A field as it is printed after the message. -/
def fieldText (name text : Bytes) : Bytes := " " ++ name ++ "=" ++ value text

/-- The fields of an entry by name. -/
def Entry.sortedFields (e : Entry) : List (Bytes × Bytes) :=
  e.fields.mergeSort fun a b => Tally.bytesLe a.1 b.1

/-- The line of an entry. -/
def Entry.line (e : Entry) : Bytes :=
  let fields : Bytes := e.sortedFields.flatMap fun f => fieldText f.1 f.2
  "level=" ++ e.level.name ++ " msg=" ++ value e.message ++ fields ++ "\n"

/-- The lines of the entries that are at least as serious as the level. -/
def render (level : Level) (entries : List Entry) : Bytes :=
  (entries.filter fun e => e.level.rank ≤ level.rank).flatMap Entry.line

end VarLint.Log
