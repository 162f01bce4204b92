import VarLint.Text.Bytes

/-!
# Comma-separated records

A list on the command line is one record: fields with commas between them. A field that starts with
a double quote ends at the next one that stands alone and may hold commas and line breaks; two
double quotes in it stand for one.
-/

namespace VarLint.CommandLine

/-- What is wrong with a record. -/
inductive RecordFault where
  | bareQuote
  | misplacedQuote
  deriving DecidableEq, Repr

/-- A fault in words. -/
def RecordFault.message : RecordFault → Bytes
  | bareQuote => "bare \" in non-quoted-field"
  | misplacedQuote => "extraneous or missing \" in quoted-field"

/-- Why there is no record: nothing but empty lines, or a fault in the record that starts at a line,
at a line and a column. -/
inductive RecordError where
  | empty
  | fault (start line column : Nat) (what : RecordFault)
  deriving DecidableEq, Repr

/-- The text of an error. -/
def RecordError.message : RecordError → Bytes
  | empty => "EOF"
  | fault start line column what =>
    let record : Bytes := if start = line then []
      else "record on line " ++ Bytes.ofNat start ++ "; "
    record ++ "parse error on line " ++ Bytes.ofNat line ++ ", column " ++
      Bytes.ofNat column ++ ": "
      ++ what.message

namespace Record

/-- The double quote, the comma, and the ends of lines. -/
def quote : UInt8 := 0x22

@[inherit_doc quote]
def comma : UInt8 := 0x2C

@[inherit_doc quote]
def lineFeed : UInt8 := 0x0A

@[inherit_doc quote]
def carriageReturn : UInt8 := 0x0D

/-- A text whose lines end with a line feed alone. A carriage return at the very end is dropped. -/
def unifyLines : Bytes → Bytes
  | [] => []
  | [b] => if b == carriageReturn then [] else [b]
  | b :: c :: rest =>
    if b == carriageReturn && c == lineFeed then unifyLines (c :: rest)
    else b :: unifyLines (c :: rest)

/-- Where a reader is: at the start of a field, in a field without quotes, in a quoted one, or after
a double quote in a quoted one. -/
inductive Place where
  | start
  | bare
  | quoted
  | closing
  deriving DecidableEq, Repr

/-- The state of reading a record: the line and the column, the field so far and the fields before
it, the last first. -/
structure State where
  place : Place := .start
  line : Nat
  column : Nat := 1
  field : Bytes := []
  fields : List Bytes := []

/-- The fields once the last one is complete. -/
def State.finish (s : State) : List Bytes := (s.field.reverse :: s.fields).reverse

/-- Takes a byte into the field. -/
def State.take (s : State) (place : Place) (b : UInt8) : State :=
  { s with place, field := b :: s.field, column := s.column + 1 }

/-- Goes on to the next field. -/
def State.next (s : State) : State :=
  { s with place := .start, field := [], fields := s.field.reverse :: s.fields
           column := s.column + 1 }

/-- Reads the record that starts at the line `start`. -/
def read (start : Nat) : State → Bytes → Except RecordError (List Bytes)
  | s, [] =>
    if s.place = .quoted then .error (.fault start s.line s.column .misplacedQuote)
    else .ok s.finish
  | s, b :: rest =>
    match s.place with
    | .quoted =>
      if b == quote then read start { s with place := .closing, column := s.column + 1 } rest
      else if b == lineFeed && !rest.isEmpty then
        read start { s.take .quoted b with line := s.line + 1, column := 1 } rest
      else read start (s.take .quoted b) rest
    | .closing =>
      if b == quote then read start (s.take .quoted b) rest
      else if b == comma then read start s.next rest
      else if b == lineFeed then .ok s.finish
      else .error (.fault start s.line (s.column - 1) .misplacedQuote)
    | place =>
      if b == comma then read start s.next rest
      else if b == lineFeed then .ok s.finish
      else if b == quote then
        if place = .start then read start { s with place := .quoted, column := s.column + 1 } rest
        else .error (.fault start s.line s.column .bareQuote)
      else read start (s.take .bare b) rest

/-- The fields of the first record of a text; the empty text is a record without fields. -/
def fields (s : Bytes) : Except RecordError (List Bytes) :=
  if s.isEmpty then .ok []
  else
    let text := unifyLines s
    let body := text.dropWhile (· == lineFeed)
    let start := text.length - body.length + 1
    if body.isEmpty then .error .empty else read start { line := start } body

end Record

end VarLint.CommandLine
