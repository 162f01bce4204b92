import VarLint.CommandLine.Record
import VarLint.Config.Value
import VarLint.Text.Quoted

/-!
# Flags

The flags of a command and how they are read: a name after two dashes or a letter after one, with a
value after an equals sign or in the next argument. A switch needs no value. Arguments that are no
flags are kept, and two dashes alone end the flags.
-/

namespace VarLint.CommandLine

open Config (Value)

/-- What a flag takes as its value. -/
inductive FlagKind where
  | switch
  | text
  | integer
  | number
  | list
  deriving DecidableEq, Repr

/-- A flag: its name, what it takes, and a letter that stands for it too. -/
structure Flag where
  name : Bytes
  kind : FlagKind
  letter : Option UInt8 := none
  deriving DecidableEq, Repr

/-- Whether a flag needs no value. -/
def Flag.isSwitch (f : Flag) : Bool := f.kind = .switch

/-- A flag as it is named in errors. -/
def Flag.title (f : Flag) : Bytes :=
  let letter : Bytes := match f.letter with
    | some b => "-" ++ [b] ++ Bytes.ofString ", "
    | none => []
  letter ++ "--" ++ f.name

/-- Why arguments cannot be read. -/
inductive FlagError where
  | malformed (argument : Bytes)
  | unknown (name : Bytes)
  | unknownLetter (letter : UInt8) (letters : Bytes)
  | missingValue (name : Bytes)
  | invalidValue (flag : Flag) (value cause : Bytes)
  deriving DecidableEq, Repr

/-- The character that stands for a letter in an error. One outside ASCII is shown as the first byte
of its two in UTF-8. -/
def shownLetter (b : UInt8) : Char :=
  if b < 0x80 then Char.ofNat b.toNat else if b < 0xC0 then Char.ofNat 0xC2 else Char.ofNat 0xC3

/-- The text of an error. -/
def FlagError.message : FlagError → Bytes
  | malformed argument => "bad flag syntax: " ++ argument
  | unknown name => "unknown flag: --" ++ name
  | unknownLetter letter letters =>
    "unknown shorthand flag: " ++ quoteChar (shownLetter letter) ++ " in -" ++ letters
  | missingValue name => "flag needs an argument: --" ++ name
  | invalidValue flag value cause =>
    "invalid argument " ++ value.quote ++ " for " ++ flag.title.quote ++ " flag: " ++ cause

/-! ## Values -/

/-- The text of the error about a value that a reader does not take. -/
def unreadable (reader value : Bytes) (p : Numeral.Problem) : Bytes :=
  "strconv." ++ reader ++ ": parsing " ++ value.quote ++ ": " ++ p.message

/-- The value of a flag that had the value `old` before; lists grow. -/
def FlagKind.read (old : Option Value) (s : Bytes) : FlagKind → Except Bytes Value
  | switch =>
    match Numeral.bool? s with
    | some b => .ok (.bool b)
    | none => .error (unreadable "ParseBool" s .malformed)
  | text => .ok (.text s)
  | integer =>
    match Numeral.integer s with
    | .ok n => .ok (.integer n)
    | .error p => .error (unreadable "ParseInt" s p)
  | number =>
    match Numeral.float s with
    | .ok x => .ok (.float x)
    | .error p => .error (unreadable "ParseFloat" s p)
  | list =>
    match Record.fields s with
    | .ok fields =>
      let before := match old with
        | some (.list items) => items
        | _ => []
      .ok (.list (before ++ fields.map .text))
    | .error e => .error e.message

/-! ## Arguments -/

/-- What was read: the values of flags and the other arguments. -/
structure Parsed where
  values : List (Bytes × Value) := []
  arguments : List Bytes := []

/-- Sets a flag. -/
def Parsed.set (p : Parsed) (f : Flag) (s : Bytes) : Except FlagError Parsed :=
  match f.kind.read (p.values.lookup f.name) s with
  | .ok v => .ok { p with values := (f.name, v) :: p.values.filter fun e => !(e.1 == f.name) }
  | .error cause => .error (.invalidValue f s cause)

/-- The dash and the equals sign. -/
def dash : UInt8 := 0x2D

@[inherit_doc dash]
def equals : UInt8 := 0x3D

/-- The value of a switch that is given without one. -/
def switchedOn : Bytes := "true"

/-- Reads letters after a dash, all of which are switches; the last may have a value. -/
def letters (flags : List Flag) : Parsed → Bytes → Except FlagError Parsed
  | p, [] => .ok p
  | p, b :: rest =>
    match flags.find? fun f => f.letter == some b with
    | none => .error (.unknownLetter b (b :: rest))
    | some f =>
      if rest.head? == some equals && 1 < rest.length then p.set f (rest.drop 1)
      else match p.set f switchedOn with
        | .ok p => letters flags p rest
        | .error e => .error e

/-- What an argument is. -/
inductive Argument where
  | plain
  | endOfFlags
  | letters (s : Bytes)
  | flag (name : Bytes) (value : Option Bytes)
  | malformed
  deriving DecidableEq, Repr

/-- What an argument is by its form. -/
def Argument.ofBytes : Bytes → Argument
  | 0x2D :: 0x2D :: [] => endOfFlags
  | 0x2D :: 0x2D :: name =>
    if name.head? == some dash || name.head? == some equals then malformed
    else match Bytes.cut? [equals] name with
      | some (name, value) => flag name (some value)
      | none => flag name none
  | 0x2D :: b :: rest => letters (b :: rest)
  | _ => plain

/-- Reads arguments. -/
def parse (flags : List Flag) : Parsed → List Bytes → Except FlagError Parsed
  | p, [] => .ok p
  | p, a :: rest =>
    match Argument.ofBytes a with
    | .plain => parse flags { p with arguments := p.arguments ++ [a] } rest
    | .endOfFlags => .ok { p with arguments := p.arguments ++ rest }
    | .malformed => .error (.malformed a)
    | .letters s =>
      match letters flags p s with
      | .ok p => parse flags p rest
      | .error e => .error e
    | .flag name value =>
      match flags.find? fun f => f.name == name with
      | none => .error (.unknown name)
      | some f =>
        match value.or (if f.isSwitch then some switchedOn else none) with
        | some s =>
          match p.set f s with
          | .ok p => parse flags p rest
          | .error e => .error e
        | none =>
          match rest with
          | [] => .error (.missingValue name)
          | s :: more =>
            match p.set f s with
            | .ok p => parse flags p more
            | .error e => .error e

end VarLint.CommandLine
