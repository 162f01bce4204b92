import VarLint.Path

/-!
# Disks

A tree of directories and files, and a working directory in it. Everything has a size and a time of
modification, by which it is listed. The content of an unreadable file is not to be had.
-/

namespace VarLint

/-- A file or a directory. The size of a file that can be read is the length of its content. The
children of a directory are in byte order of their names. -/
inductive Node where
  | file (content : Bytes) (modified : Int)
  | unreadable (modified : Int) (size : Nat := 0)
  | directory (children : List (Bytes × Node)) (size : Nat := 0) (modified : Int := 0)

/-- Why a path cannot be followed or read. -/
inductive DiskError where
  | noEntry
  | notDirectory
  | isDirectory
  | inputOutput
  deriving DecidableEq, Repr

/-- A cause in words. -/
def DiskError.message : DiskError → Bytes
  | noEntry => "no such file or directory"
  | notDirectory => "not a directory"
  | isDirectory => "is a directory"
  | inputOutput => "input/output error"

namespace Node

/-- The empty directory. -/
def emptyDirectory : Node := .directory []

/-- Whether the node is a directory. -/
def isDirectory : Node → Bool
  | directory .. => true
  | _ => false

/-- The children of a directory; other nodes have none. -/
def children : Node → List (Bytes × Node)
  | directory cs .. => cs
  | _ => []

/-- The directory with other children. What is no directory becomes one. -/
def withChildren (cs : List (Bytes × Node)) : Node → Node
  | directory _ size modified => .directory cs size modified
  | _ => .directory cs

/-- Follows path elements. `above` holds the directories on the way, the nearest first, for steps to
the parent; the parent of the root is the root. -/
def follow : List Node → Node → List Bytes → Except DiskError Node
  | _, n, [] => .ok n
  | above, n, e :: es =>
    match n with
    | .directory cs .. =>
      if e == Path.here then follow above n es
      else if e == Path.parent then
        match above with
        | [] => follow [] n es
        | up :: above => follow above up es
      else match cs.lookup e with
        | some child => follow (n :: above) child es
        | none => .error .noEntry
    | _ => .error .notDirectory

/-- A list of children with one added or replaced, in byte order. -/
def insertChild (name : Bytes) (node : Node) : List (Bytes × Node) → List (Bytes × Node)
  | [] => [(name, node)]
  | (n, c) :: rest =>
    if n == name then (name, node) :: rest
    else if name < n then (name, node) :: (n, c) :: rest
    else (n, c) :: insertChild name node rest

/-- The tree with a node put at the given elements. Missing directories are made, and what stands in
their way is replaced by one. -/
def put (node : Node) : List Bytes → Node → Node
  | [], _ => node
  | e :: es, n =>
    let child := (n.children.lookup e).getD emptyDirectory
    n.withChildren (insertChild e (put node es child) n.children)

/-- The tree without the node at the given elements. -/
def remove : List Bytes → Node → Node
  | [], n => n
  | [e], .directory cs size modified =>
    .directory (cs.filter fun c => !(c.1 == e)) size modified
  | e :: es, .directory cs size modified =>
    match cs.lookup e with
    | some child => .directory (insertChild e (remove es child) cs) size modified
    | none => .directory cs size modified
  | _, n => n

end Node

/-- A tree with a working directory, which is an absolute path. -/
structure Disk where
  root : Node
  workingDirectory : Bytes

/-- What is known of a file without reading it. -/
structure Stat where
  size : Nat
  modified : Int
  isDirectory : Bool
  deriving DecidableEq, Repr

namespace Disk

/-- The elements of a path from the root on. -/
def elementsOf (d : Disk) (path : Bytes) : List Bytes :=
  if Path.isAbsolute path then Path.elements path
  else Path.elements d.workingDirectory ++ Path.elements path

/-- The node at a path. A slash at the end demands a directory. -/
def find (d : Disk) (path : Bytes) : Except DiskError Node :=
  if path.isEmpty then .error .noEntry
  else match d.root.follow [] (d.elementsOf path) with
    | .ok n =>
      if path.getLast? == some Path.slash && !n.isDirectory then .error .notDirectory else .ok n
    | .error e => .error e

/-- What is known of the node at a path. -/
def stat (d : Disk) (path : Bytes) : Except DiskError Stat :=
  (d.find path).map fun n =>
    match n with
    | .file content modified => ⟨content.length, modified, false⟩
    | .unreadable modified size => ⟨size, modified, false⟩
    | .directory _ size modified => ⟨size, modified, true⟩

/-- The content of the file at a path. -/
def read (d : Disk) (path : Bytes) : Except DiskError Bytes :=
  match d.find path with
  | .ok (.file content _) => .ok content
  | .ok (.unreadable ..) => .error .inputOutput
  | .ok (.directory ..) => .error .isDirectory
  | .error e => .error e

/-- The disk with a node put at a path. -/
def put (d : Disk) (path : Bytes) (node : Node) : Disk :=
  { d with root := Node.put node (Path.resolve true [] (d.elementsOf path)) d.root }

/-- The disk without the node at a path. -/
def remove (d : Disk) (path : Bytes) : Disk :=
  { d with root := Node.remove (Path.resolve true [] (d.elementsOf path)) d.root }

end Disk

end VarLint
