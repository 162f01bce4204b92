import VarLint.Text.Rune

/-!
# Paths

Slash-separated paths as text: their extension, their parts, their shortest equivalent form, and the
path that leads from one directory to another.
-/

namespace VarLint.Path

/-- The separator of path elements. -/
def slash : UInt8 := 0x2F

/-- The text from the last dot of the last path element on, if it has a dot. -/
def extension (path : Bytes) : Bytes :=
  let reversed := path.reverse.takeWhile (fun b => b != slash)
  match reversed.idxOf? 0x2E with
  | some i => (reversed.take (i + 1)).reverse
  | none => []

/-- Whether a path starts at the root directory. -/
def isAbsolute (path : Bytes) : Bool := path.head? == some slash

/-- The elements between the slashes, without empty ones. -/
def elements (path : Bytes) : List Bytes :=
  (path.splitOn slash).filter fun e => !e.isEmpty

/-- The element that names the current directory. -/
def here : Bytes := "."

/-- The element that names the parent directory. -/
def parent : Bytes := ".."

/-- Resolves `.` and `..` among the elements; `done` holds the elements kept so far, the latest
first. At the root a parent is the root itself, elsewhere leading parents stay. -/
def resolve (absolute : Bool) : List Bytes → List Bytes → List Bytes
  | done, [] => done.reverse
  | done, e :: rest =>
    if e == here then resolve absolute done rest
    else if e == parent then
      match done with
      | [] => resolve absolute (if absolute then [] else [parent]) rest
      | d :: ds =>
        if d == parent then resolve absolute (parent :: d :: ds) rest
        else resolve absolute ds rest
    else resolve absolute (e :: done) rest

/-- The text of a path with the given elements. -/
def ofElements (absolute : Bool) (es : List Bytes) : Bytes :=
  if absolute then slash :: Bytes.join "/" es
  else if es.isEmpty then here else Bytes.join "/" es

/-- The shortest path that is lexically equivalent. -/
def clean (path : Bytes) : Bytes :=
  ofElements (isAbsolute path) (resolve (isAbsolute path) [] (elements path))

/-- Two paths joined by a slash and cleaned; empty ones are left out. -/
def join (a b : Bytes) : Bytes :=
  if a.isEmpty then (if b.isEmpty then [] else clean b)
  else if b.isEmpty then clean a
  else clean (a ++ "/" ++ b)

/-- The last element of a path. -/
def base (path : Bytes) : Bytes :=
  match (elements path).getLast? with
  | some e => e
  | none => if path.isEmpty then here else "/"

/-- Drops the elements that two lists have in common at their start. -/
def dropCommon : List Bytes → List Bytes → List Bytes × List Bytes
  | a :: as, b :: bs => if a == b then dropCommon as bs else (a :: as, b :: bs)
  | as, bs => (as, bs)

/-- The path from directory `source` to `target`, if both are absolute or both are relative and no
parent has to be left by an unknown name. -/
def relativeTo? (source target : Bytes) : Option Bytes :=
  if isAbsolute source != isAbsolute target then none
  else
    let (up, down) :=
      dropCommon (resolve (isAbsolute source) [] (elements source))
        (resolve (isAbsolute target) [] (elements target))
    if up.contains parent then none
    else some (ofElements false (up.map (fun _ => parent) ++ down))

end VarLint.Path
