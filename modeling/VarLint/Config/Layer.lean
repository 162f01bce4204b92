import VarLint.Config.Value
import VarLint.Text.Rune

/-!
# Layers of settings

Settings come in layers: a file, the environment, the command line. A later layer overrides an
earlier one entry by entry; tables are merged and anything else is replaced. A setting is found by
its path, the names on the way to it with points between them.
-/

namespace VarLint.Config

/-- A table of settings. -/
abbrev Table := List (Bytes × Value)

/-- The byte between the names of a path. -/
def point : UInt8 := 0x2E

mutual

/-- A value over another one. -/
def overlayValue (old : Option Value) : Value → Value
  | .table new =>
    match old with
    | some (.table entries) => .table (overlay entries new)
    | _ => .table new
  | v => v

/-- The entries of `new` over those of `old`. -/
def overlay (old : Table) : Table → Table
  | [] => old
  | (name, v) :: rest =>
    let value := overlayValue (old.lookup name) v
    overlay ((name, value) :: old.filter fun e => !(e.1 == name)) rest

end

/-- The part of a path after a name and a point. -/
def below? (name path : Bytes) : Option Bytes :=
  let start := name ++ [point]
  if start.isPrefixOf path then some (path.drop start.length) else none

mutual

/-- What a path leads to within a value. -/
def within (path : Bytes) : Value → Option Value
  | .table entries => find? path entries
  | _ => none

/-- What a path leads to in a table. A name may hold points itself. -/
def find? (path : Bytes) : Table → Option Value
  | [] => none
  | (name, v) :: rest =>
    if name == path then some v
    else match below? name path with
      | some tail =>
        match within tail v with
        | some found => some found
        | none => find? path rest
      | none => find? path rest

end

/-- The table with one value at the end of the given names. -/
def nest (v : Value) : List Bytes → Value
  | [] => v
  | name :: names => .table [(name, nest v names)]

/-- A table with the value at a path set. -/
def put (t : Table) (path : Bytes) (v : Value) : Table :=
  match nest v (Bytes.splitOn point path) with
  | .table entries => overlay t entries
  | _ => t

/-! ## The environment -/

/-- The start of the names of environment variables that are settings. -/
def environmentStart : Bytes := "CSSVARS_"

/-- The byte that stands for a hyphen in the name of a variable. -/
def underscore : UInt8 := 0x5F

/-- A name with hyphens for underscores. -/
def hyphenated (s : Bytes) : Bytes := s.map fun b => if b == underscore then 0x2D else b

/-- The tables that variables can name in front of a setting. -/
def sections : List Bytes := ["rule", "lint"]

/-- The path of the setting that a variable stands for. -/
def pathOfVariable (name : Bytes) : Bytes :=
  let rest := if environmentStart.isPrefixOf name then name.drop environmentStart.length else name
  let key := Bytes.toLower rest
  let found := sections.findSome? fun table =>
    let start := table ++ [underscore]
    if start.isPrefixOf key then
      some (table ++ [point] ++ hyphenated (key.drop start.length))
    else none
  found.getD (hyphenated key)

/-- The settings among environment variables. -/
def ofEnvironment (environment : List (Bytes × Bytes)) : Table :=
  let settings := environment.filter fun v =>
    environmentStart.isPrefixOf v.1 && !(pathOfVariable v.1).isEmpty
  settings.foldl (fun t v => put t (pathOfVariable v.1) (.text v.2)) []

/-! ## All layers -/

/-- The settings of a file, with those of the environment over them, and those of the command line
on top. -/
def ofLayers (file environment flags : Table) : Table :=
  overlay (overlay (overlay [] file) environment) flags

end VarLint.Config
