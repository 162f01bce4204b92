import VarLint.Disk.Basic
import VarLint.Glob.Pattern
import VarLint.Glob.Segment
import VarLint.Tally

/-!
# Expanding glob patterns

The paths on a disk that a pattern stands for. Names come in the order of their directory. Two stars
as a whole segment stand for a directory and everything below it, each directory before its content.
The paths of alternatives are merged in byte order, without duplicates: for each directory on its
own, or for all directories together if the pattern crosses directories.
-/

namespace VarLint.Glob

/-- A node with the names that lead to it from the directory where the expansion started. -/
structure Found where
  names : List Bytes
  node : Node

/-- The text of the names. -/
def Found.text (f : Found) : Bytes := Path.ofElements false f.names

mutual

/-- A directory and everything below it; files only if `files`. -/
def descend (files : Bool) (names : List Bytes) : Node → List Found
  | .directory children size modified =>
    ⟨names, .directory children size modified⟩ :: descendAll files names children
  | .file content modified => if files then [⟨names, .file content modified⟩] else []
  | .unreadable modified size => if files then [⟨names, .unreadable modified size⟩] else []

/-- The children of a directory and everything below them. -/
def descendAll (files : Bool) (names : List Bytes) : List (Bytes × Node) → List Found
  | [] => []
  | (name, child) :: rest => descend files (names ++ [name]) child ++ descendAll files names rest

end

/-- The children of a directory whose names fit; directories only, unless `files`. -/
def fitting (files : Bool) (names : List Bytes) (pattern : List Atom) :
    List (Bytes × Node) → Option (List Found)
  | [] => some []
  | (name, child) :: rest => do
    let fit ← fits pattern (Bytes.chars name)
    let others ← fitting files names pattern rest
    return if fit && (files || child.isDirectory) then ⟨names ++ [name], child⟩ :: others
      else others

/-- What a segment stands for in a directory; `none` for a malformed pattern. -/
def inDirectory (files : Bool) (segment : Bytes) (d : Found) : Option (List Found) :=
  if !d.node.isDirectory then some []
  else if segment.isEmpty then some [d]
  else if segment == "**" then some (descend files d.names d.node)
  else fitting files d.names (atoms segment) d.node.children

/-- The node at a plain path below a directory. -/
def atPath (path : Bytes) (d : Found) : List Found :=
  let elements := path.splitOn Path.slash
  if elements.any List.isEmpty then []
  else match d.node.follow [] elements with
    | .ok n => [⟨d.names ++ elements.filter (fun e => !(e == Path.here)), n⟩]
    | .error _ => []

/-- The found nodes with one of each run of equal paths. -/
def unique : List Found → List Found
  | a :: b :: rest => if a.text == b.text then unique (a :: rest) else a :: unique (b :: rest)
  | short => short
termination_by found => found.length

/-- The found nodes in byte order of their paths, without duplicates. -/
def merged (found : List Found) : List Found :=
  unique (found.mergeSort fun a b => Tally.bytesLe a.text b.text)

/-- The answers for all elements in order; `none` if one is. -/
def collect {α : Type} (f : α → Option (List Found)) : List α → Option (List Found)
  | [] => some []
  | x :: xs => do
    let first ← f x
    let rest ← collect f xs
    return first ++ rest

mutual

/-- What a plan stands for below a directory; directories only, unless `files`. `together` tells how
the paths of alternatives are merged. -/
def Plan.expand (together files : Bool) : Plan → Found → Option (List Found)
  | .plain path, d => some (atPath path d)
  | .names segment, d => inDirectory files segment d
  | .under directories segment, d => do
    let ds ← directories.expand together false d
    collect (inDirectory files segment) ds
  | .alternatives none choices, d => do
    let found ← Plan.expandAll together files choices d
    return if together || 1 < choices.length then merged found else found
  | .alternatives (some directories) choices, d => do
    let ds ← directories.expand together false d
    if together then return merged (← collect (Plan.expandAll together files choices) ds)
    else
      collect
        (fun d => do
          let found ← Plan.expandAll together files choices d
          return if 1 < choices.length then merged found else found)
        ds

/-- What the choices stand for below a directory, one after the other. -/
def Plan.expandAll (together files : Bool) : List Plan → Found → Option (List Found)
  | [], _ => some []
  | choice :: rest, d => do
    let first ← choice.expand together files d
    let others ← Plan.expandAll together files rest d
    return first ++ others

end

/-- The paths that a pattern stands for; `none` if it is malformed. -/
def paths (disk : Disk) (pattern : Bytes) : Option (List Bytes) :=
  if pattern.isEmpty then some []
  else
    let pattern := Path.clean pattern
    let (base, rest) := split pattern
    if rest.isEmpty || rest == Path.here || rest == Path.parent then
      if !isValid pattern then none
      else
        let path := unescape pattern
        match disk.find path with
        | .ok _ => some [path]
        | .error _ => some []
    else if !isValid rest then none
    else match disk.find base with
      | .error _ => some []
      | .ok node => do
        let found ← (plan rest).expand (crossesDirectories rest) true ⟨[], node⟩
        return found.map fun f => Path.join base f.text

end VarLint.Glob
