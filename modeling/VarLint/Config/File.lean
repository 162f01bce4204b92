import VarLint.Config.Value
import VarLint.Yaml.Document

/-!
# Configuration files

The table of settings that a configuration file holds. Plain scalars are resolved by their spelling:
to nothing, truth values, integers, floating-point numbers, points in time or text. Keys of a
mapping are unique, and a merge key adds the entries of other mappings that the mapping does not
have itself.
-/

namespace VarLint.Config

open Yaml (Tree)

/-! ## Points in time -/

/-- One or two digits at the start of a text, as a number. -/
def shortNumber? (s : Bytes) : Option (Nat × Bytes) :=
  let taken := (s.take 2).takeWhile Numeral.isDigit
  if taken.isEmpty then none
  else some (taken.foldl (fun n b => n * 10 + (b.toNat - 0x30)) 0, s.drop taken.length)

/-- A given byte at the start of a text is dropped. -/
def expect? (b : UInt8) : Bytes → Option Bytes
  | [] => none
  | c :: s => if c == b then some s else none

/-- The number of days of a month. -/
def daysIn (year month : Nat) : Nat :=
  if month == 2 then (if year % 4 == 0 && (year % 100 != 0 || year % 400 == 0) then 29 else 28)
  else if [4, 6, 9, 11].contains month then 30
  else 31

/-- A number with at least two digits. -/
def twoDigits (n : Nat) : Bytes := if n < 10 then "0" ++ Bytes.ofNat n else .ofNat n

/-- The fraction of a second at the start of a text, without zeros at its end. -/
def fraction? (s : Bytes) : Option (Bytes × Bytes) :=
  match s with
  | b :: rest =>
    if b == 0x2E || b == 0x2C then
      let digits := rest.takeWhile Numeral.isDigit
      if digits.isEmpty then none
      else
        let kept := (digits.take 9).reverse.dropWhile (· == 0x30)
        some (if kept.isEmpty then [] else "." ++ kept.reverse, rest.drop digits.length)
    else some ([], s)
  | [] => some ([], [])

/-- The time of a day at the start of a text. -/
def clock? (s : Bytes) : Option (Bytes × Bytes) := do
  let (hour, s) ← shortNumber? s
  let s ← expect? 0x3A s
  let (minute, s) ← shortNumber? s
  let s ← expect? 0x3A s
  let (second, s) ← shortNumber? s
  let (fraction, s) ← fraction? s
  if 24 ≤ hour || 60 ≤ minute || 60 ≤ second then none
  return (twoDigits hour ++ ":" ++ twoDigits minute ++ ":" ++ twoDigits second ++ fraction, s)

/-- The name of universal time. -/
def universal : Bytes := "+0000 UTC"

/-- The zone of a time: a letter for universal time, or a distance from it. -/
def zone? (s : Bytes) : Option Bytes :=
  match s with
  | [0x5A] => some universal
  | [sign, a, b, 0x3A, c, d] =>
    if (sign == 0x2B || sign == 0x2D) && [a, b, c, d].all Numeral.isDigit then
      let hours := 10 * (a.toNat - 0x30) + (b.toNat - 0x30)
      let minutes := 10 * (c.toNat - 0x30) + (d.toNat - 0x30)
      if 24 < hours || 60 < minutes then none
      else if hours == 0 && minutes == 0 then some universal
      else some ([sign, a, b, c, d, 0x20] ++ [sign, a, b, c, d])
    else none
  | _ => none

/-- A point in time as it is printed: a date of four digits for the year, alone or with a time. -/
def time? (s : Bytes) : Option Bytes := do
  let year := s.takeWhile Numeral.isDigit
  if year.length != 4 then none
  let s ← expect? 0x2D (s.drop 4)
  let (month, s) ← shortNumber? s
  let s ← expect? 0x2D s
  let (day, s) ← shortNumber? s
  let number := year.foldl (fun n b => n * 10 + (b.toNat - 0x30)) 0
  if month == 0 || 12 < month || day == 0 || daysIn number month < day then none
  let date := year ++ "-" ++ twoDigits month ++ "-" ++ twoDigits day
  match s with
  | [] => return date ++ " 00:00:00 " ++ universal
  | b :: rest =>
    let (clock, rest) ← clock? rest
    if b == 0x20 then
      if rest.isEmpty then return date ++ " " ++ clock ++ " " ++ universal else none
    else if b == 0x54 || b == 0x74 then
      let zone ← zone? rest
      return date ++ " " ++ clock ++ " " ++ zone
    else none

/-! ## Scalars -/

/-- The kinds of scalars. -/
inductive Kind where
  | null
  | bool
  | integer
  | float
  | time
  | merge
  | text
  deriving DecidableEq, Repr

/-- The spellings that stand for a value whatever their form. -/
def words : List (Bytes × Kind × Value) :=
  let infinity := Float.ofScientific 1 false 400
  let entry := fun (kind : Kind) (v : Value) (s : String) => (Bytes.ofString s, kind, v)
  ["", "~", "null", "Null", "NULL"].map (entry .null .null)
    ++ ["true", "True", "TRUE"].map (entry .bool (.bool true))
    ++ ["false", "False", "FALSE"].map (entry .bool (.bool false))
    ++ [".inf", ".Inf", ".INF", "+.inf", "+.Inf", "+.INF"].map (entry .float (.float infinity))
    ++ ["-.inf", "-.Inf", "-.INF"].map (entry .float (.float (-infinity)))
    ++ [".nan", ".NaN", ".NAN"].map (entry .float (.float (infinity - infinity)))
    ++ [entry .merge (.text "<<") "<<"]

/-- The value of digits after the mark of a base, with a sign between them. -/
def marked? (mark : Bytes) (base : Nat) (s : Bytes) : Option Int :=
  if !mark.isPrefixOf s then none
  else
    let (negative, digits) := Numeral.unsign (s.drop mark.length)
    match digits, Numeral.digits base 0 digits with
    | _ :: _, .ok n =>
      if negative then (if n ≤ Numeral.signBound then some (-(n : Int)) else none)
      else if n < Numeral.signBound then some n
      else none
    | _, _ => none

/-- The integer that a text stands for. -/
def integer? (s : Bytes) : Option Int :=
  match Numeral.integer s, Numeral.natural s with
  | .ok n, _ => some n
  | _, .ok n => some n
  | _, _ => none

/-- Whether a text is made of digits, with at most one point among them, and perhaps an exponent. -/
def isDecimal (s : Bytes) : Bool :=
  let (_, body) := Numeral.unsign s
  let whole := body.takeWhile Numeral.isDigit
  let rest := body.drop whole.length
  let (places, rest) :=
    match rest with
    | 0x2E :: rest =>
      let places := rest.takeWhile Numeral.isDigit
      (places, rest.drop places.length)
    | _ => ([], rest)
  let exponent :=
    match rest with
    | [] => true
    | b :: rest =>
      let (_, digits) := Numeral.unsign rest
      Numeral.lower b == 0x65 && !digits.isEmpty && digits.all Numeral.isDigit
  (!whole.isEmpty || !places.isEmpty) && exponent

/-- The number that a text stands for. Separators between digits do not count. -/
def number? (s : Bytes) : Option (Kind × Value) :=
  let body := s.filter (· != Numeral.separator)
  match integer? body with
  | some n => some (.integer, .integer n)
  | none =>
    match isDecimal body, Numeral.float body with
    | true, .ok x => some (.float, .float x)
    | _, _ =>
      match (marked? "0b" 2 body).or (marked? "0o" 8 body) with
      | some n => some (.integer, .integer n)
      | none => none

/-- What an unquoted text stands for. -/
def resolve (s : Bytes) : Kind × Value :=
  match words.lookup s with
  | some found => found
  | none =>
    let start := s.head?.getD 0
    let found :=
      if start == 0x2E then
        match Numeral.float s with
        | .ok x => some (Kind.float, Value.float x)
        | .error _ => none
      else if Numeral.isDigit start || start == 0x2B || start == 0x2D then
        match time? s with
        | some t => some (.time, .text t)
        | none => number? s
      else none
    found.getD (.text, .text s)

/-- The short names of the tags of scalars. -/
def Kind.ofTag? (tag : Bytes) : Option Kind :=
  let tags : List (Bytes × Kind) :=
    [("null", .null), ("bool", .bool), ("int", .integer), ("float", .float),
      ("timestamp", .time), ("merge", .merge), ("str", .text)]
  (Bytes.cut? "tag:yaml.org,2002:" tag).bind fun (before, name) =>
    if before.isEmpty then tags.lookup name else none

/-- Whether a tag leaves the choice of a kind to the spelling. -/
def isOpenTag (tag : Bytes) : Bool := tag.isEmpty || tag == "!"

/-- What a scalar stands for: quoted ones for text, and tagged ones for what their tag says, if they
can be read so. With a tag of no kind of scalar it is text. -/
def scalar? (tag text : Bytes) (isPlain : Bool) : Option (Kind × Value) :=
  if isOpenTag tag then some (if isPlain then resolve text else (.text, .text text))
  else match Kind.ofTag? tag with
    | none | some .text | some .merge => some (.text, .text text)
    | some kind =>
      match kind, resolve text with
      | .float, (.integer, .integer n) => some (.float, .float (Value.asFloat (.integer n)))
      | _, found => if found.1 = kind then some found else none

/-! ## Mappings -/

/-- Whether a key stands for a merge. -/
def isMerge : Tree → Bool
  | .scalar tag text isPlain =>
    text == "<<" && ((isOpenTag tag && isPlain) || Kind.ofTag? tag == some .merge)
  | _ => false

/-- Whether two keys are written alike. -/
def sameKey : Tree → Tree → Bool
  | .scalar _ a _, .scalar _ b _ => a == b
  | .alias a _, .alias b _ => a == b
  | .sequence _, .sequence _ => true
  | .mapping _, .mapping _ => true
  | _, _ => false

/-- Whether all keys are written differently. -/
def hasUniqueKeys : List Tree → Bool
  | [] => true
  | k :: ks => !ks.any (sameKey k) && hasUniqueKeys ks

/-- The scalar that a key stands for. -/
def keyScalar? : Tree → Option (Kind × Value × Bytes)
  | .scalar tag text isPlain => (scalar? tag text isPlain).map fun (kind, v) => (kind, v, text)
  | .alias _ target => keyScalar? target
  | _ => none

/-- The name of a key. At the top a key is named as it is written, and elsewhere by the value it
stands for; a top-level key that stands for nothing has no name. -/
def keyName? (top : Bool) (key : Tree) : Option (Option Bytes) :=
  (keyScalar? key).map fun (kind, v, text) =>
    if !top then some v.print
    else if kind = .null then none
    else some text

/-- Adds entries whose names a table does not have. -/
def addMissing (entries more : List (Bytes × Value)) : List (Bytes × Value) :=
  entries ++ more.filter fun e => (entries.lookup e.1).isNone

mutual

/-- The value of a tree. -/
def value? : Tree → Option Value
  | .scalar tag text isPlain => (scalar? tag text isPlain).map Prod.snd
  | .sequence items => (values? items).map .list
  | .mapping entries => (table? false entries).map .table
  | .alias _ target => value? target

/-- The values of trees. -/
def values? : List Tree → Option (List Value)
  | [] => some []
  | t :: ts => do
    let v ← value? t
    let vs ← values? ts
    return v :: vs

/-- The table of a mapping with unique keys. -/
def table? (top : Bool) (entries : List (Tree × Tree)) : Option (List (Bytes × Value)) :=
  if hasUniqueKeys (entries.map Prod.fst) then do
    let own ← ownEntries? top entries
    let merged ← mergedEntries? top entries
    return addMissing own merged
  else none

/-- The entries of a mapping itself; of two keys with one name the last one counts. -/
def ownEntries? (top : Bool) : List (Tree × Tree) → Option (List (Bytes × Value))
  | [] => some []
  | (key, t) :: rest =>
    if isMerge key then ownEntries? top rest
    else do
      let name ← keyName? top key
      let v ← value? t
      let vs ← ownEntries? top rest
      match name with
      | some name => return if (vs.lookup name).isSome then vs else (name, v) :: vs
      | none => return vs

/-- The entries that a mapping takes from others. -/
def mergedEntries? (top : Bool) : List (Tree × Tree) → Option (List (Bytes × Value))
  | [] => some []
  | (key, t) :: rest => if isMerge key then source? top t else mergedEntries? top rest

/-- The entries of the mapping, or of the mappings in order, that a merge key names. -/
def source? (top : Bool) : Tree → Option (List (Bytes × Value))
  | .mapping entries => table? top entries
  | .alias _ (.mapping entries) => table? top entries
  | .sequence items => sources? top items
  | _ => none

/-- The entries of several mappings, of which the first wins. -/
def sources? (top : Bool) : List Tree → Option (List (Bytes × Value))
  | [] => some []
  | t :: ts => do
    let entries ←
      match t with
      | .mapping entries => table? top entries
      | .alias _ (.mapping entries) => table? top entries
      | _ => none
    let more ← sources? top ts
    return addMissing entries more

end

/-- The settings in a configuration file; `none` if it is malformed or holds anything but a
mapping. -/
def settings? (content : Bytes) : Option (List (Bytes × Value)) := do
  match ← Yaml.document? content with
  | none => return []
  | some (.mapping entries) => table? true entries
  | some (.scalar tag text isPlain) =>
    let (kind, _) ← scalar? tag text isPlain
    if kind = .null then return [] else none
  | some _ => none

end VarLint.Config
