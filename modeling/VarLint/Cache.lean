import VarLint.Disk.Basic
import VarLint.Stylesheet.Declaration

/-!
# Cached declarations

The declarations of a file are kept together with the size and the time of modification it had, and
are used again while both are the same. The cache holds a bounded number of files and gives up the
one that has not been used for the longest time.
-/

namespace VarLint

/-- The declarations of a file that had the given size and time of modification. -/
structure CacheEntry where
  size : Nat
  modified : Int
  declarations : List Declaration
  deriving DecidableEq, Repr

/-- The cached files by path, the most recently used first, and how many there may be. -/
structure Cache where
  capacity : Nat
  entries : List (Bytes × CacheEntry)
  deriving DecidableEq, Repr

namespace Cache

/-- The capacity of a cache for which none is given. -/
def defaultCapacity : Nat := 1024

/-- An empty cache; a size that is not positive stands for the default. -/
def empty (size : Int) : Cache := ⟨if size ≤ 0 then defaultCapacity else size.toNat, []⟩

/-- The number of cached files. -/
def size (c : Cache) : Nat := c.entries.length

/-- The entry of a path. -/
def find? (c : Cache) (path : Bytes) : Option CacheEntry := c.entries.lookup path

/-- The entries of the other paths. -/
def others (c : Cache) (path : Bytes) : List (Bytes × CacheEntry) :=
  c.entries.filter fun e => !(e.1 == path)

/-- The cache without a path. -/
def erase (c : Cache) (path : Bytes) : Cache := { c with entries := c.others path }

/-- The cache with a path's entry made the most recent one; the least recent ones go if there are
too many. -/
def insert (c : Cache) (path : Bytes) (entry : CacheEntry) : Cache :=
  { c with entries := ((path, entry) :: c.others path).take c.capacity }

/-- Looks a path up: an entry that still fits the file becomes the most recent one, and any other
entry of the path is dropped. -/
def lookup (c : Cache) (path : Bytes) (s : Stat) : Option (List Declaration) × Cache :=
  match c.find? path with
  | none => (none, c)
  | some entry =>
    if entry.size = s.size ∧ entry.modified = s.modified then
      (some entry.declarations, c.insert path entry)
    else (none, c.erase path)

end Cache

/-- Why the declarations of a file cannot be loaded. -/
inductive LoadError where
  | stat (path : Bytes) (cause : DiskError)
  | read (path : Bytes) (cause : DiskError)
  deriving DecidableEq, Repr

/-- The text of an error. A path that leads nowhere fails when the file is opened, and a file that
is there when it is read. -/
def LoadError.message : LoadError → Bytes
  | stat path cause => "stat " ++ path ++ ": " ++ cause.message
  | read path cause =>
    let action : Bytes :=
      match cause with
      | .noEntry | .notDirectory => "open "
      | .isDirectory | .inputOutput => "read "
    "read file: " ++ action ++ path ++ ": " ++ cause.message

/-- Loaded declarations, and whether they came from the cache. -/
structure Loaded where
  declarations : List Declaration
  cached : Bool
  deriving DecidableEq, Repr

namespace Loaded

/-- Reads the declarations of a file. -/
def parse (disk : Disk) (path : Bytes) : Except LoadError (List Declaration) :=
  match disk.read path with
  | .ok content => .ok (Stylesheet.declarations path content)
  | .error cause => .error (.read path cause)

/-- Loads the declarations of a file through a cache. -/
def throughCache (disk : Disk) (cache : Cache) (path : Bytes) : Except LoadError Loaded × Cache :=
  match disk.stat path with
  | .error cause => (.error (.stat path cause), cache)
  | .ok s =>
    match cache.lookup path s with
    | (some declarations, cache) => (.ok ⟨declarations, true⟩, cache)
    | (none, cache) =>
      match parse disk path with
      | .error e => (.error e, cache)
      | .ok declarations =>
        (.ok ⟨declarations, false⟩, cache.insert path ⟨s.size, s.modified, declarations⟩)

/-- Loads the declarations of a file, through a cache if there is one. -/
def load (disk : Disk) (cache : Option Cache) (path : Bytes) :
    Except LoadError Loaded × Option Cache :=
  match cache with
  | none => ((parse disk path).map fun declarations => ⟨declarations, false⟩, none)
  | some cache =>
    let (answer, cache) := throughCache disk cache path
    (answer, some cache)

end Loaded

end VarLint
