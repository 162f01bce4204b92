import VarLint.Glob.Expand
import VarLint.Ignore

/-!
# Scanning

The style sheets to be checked: the files that the patterns stand for, without third-party and
minified ones and without those that the ignore file names. The ignore file is read once, when the
first relative path is looked at, and remembered.
-/

namespace VarLint

/-- Whether a path is third-party or build output. -/
def isVendored (path : Bytes) : Bool :=
  (Bytes.ofString ".min.css").isSuffixOf path || (Bytes.ofString "node_modules/").isPrefixOf path
    || Bytes.hasInfix "/node_modules/" path

/-- Whether a path has the extension of a style sheet. -/
def isStylesheet (path : Bytes) : Bool :=
  let extension := (Path.extension path).toLower
  extension == ".css" || extension == ".scss" || extension == ".less"

/-- The remembered ignore file, if it has been looked at. -/
abbrev IgnoreMemo := Option (List Ignore.Line)

namespace Scan

/-- Whether the ignore file has a say about a path. -/
def asksIgnore (path : Bytes) : Bool := !isVendored path && !Path.isAbsolute path

/-- Whether a file is left out. -/
def skips (lines : List Ignore.Line) (path : Bytes) : Bool :=
  isVendored path || (!Path.isAbsolute path && Ignore.ignores lines path)

/-- The ignore lines in force. -/
def linesIn (disk : Disk) (memo : IgnoreMemo) : List Ignore.Line := memo.getD (Ignore.load disk)

/-- The memo after the given paths have been looked at. -/
def remember (disk : Disk) (memo : IgnoreMemo) (paths : List Bytes) : IgnoreMemo :=
  if paths.any asksIgnore then some (linesIn disk memo) else memo

/-- Which of the paths are left out. -/
def skipAll (disk : Disk) (memo : IgnoreMemo) (paths : List Bytes) : List Bool × IgnoreMemo :=
  (paths.map (skips (linesIn disk memo)), remember disk memo paths)

/-- The outcome of a scan: the files to be checked and the number of those left out. -/
structure Result where
  files : List Bytes
  skipped : Nat
  deriving DecidableEq, Repr

/-- The number of files found. -/
def Result.discovered (r : Result) : Nat := r.files.length + r.skipped

/-- The paths of the patterns up to the first malformed one, and whether there is one. -/
def expandAll (disk : Disk) : List Bytes → List Bytes × Bool
  | [] => ([], true)
  | p :: ps =>
    match Glob.paths disk p with
    | none => ([], false)
    | some found =>
      let (rest, wellFormed) := expandAll disk ps
      (found ++ rest, wellFormed)

/-- Whether a path leads to something that is no directory. -/
def isFile (disk : Disk) (path : Bytes) : Bool :=
  match disk.stat path with
  | .ok s => !s.isDirectory
  | .error _ => false

/-- The files among the paths, each once. -/
def discovered (disk : Disk) (paths : List Bytes) : List Bytes :=
  (Tally.distinct paths).filter (isFile disk)

/-- Scans for the patterns; `none` if one of them is malformed. -/
def run (disk : Disk) (memo : IgnoreMemo) (patterns : List Bytes) : Option Result × IgnoreMemo :=
  let (paths, wellFormed) := expandAll disk patterns
  let found := discovered disk paths
  let (out, kept) := found.partition (skips (linesIn disk memo))
  (if wellFormed then some ⟨kept, out.length⟩ else none, remember disk memo found)

/-- The text of the error about a malformed pattern. -/
def malformedMessage : Bytes := "syntax error in pattern"

end Scan

end VarLint
