import VarLint.Config.File
import VarLint.Config.Layer
import VarLint.Disk.Basic

/-!
# Loading settings

The settings of a configuration file, which need not be there, and of the environment.
-/

namespace VarLint.Config

/-- The configuration file that is read when no other is named. -/
def defaultFile : Bytes := ".cssvars.yaml"

/-- Why a configuration file cannot be loaded. -/
inductive FileError where
  | unreadable (path : Bytes) (cause : DiskError)
  | malformed (path : Bytes)
  deriving DecidableEq, Repr

/-- The text of an error. -/
def FileError.message : FileError → Bytes
  | unreadable path cause =>
    "loading config file " ++ path ++ ": read " ++ path ++ ": " ++ cause.message
  | malformed path => "loading config file " ++ path ++ ": yaml: malformed document"

/-- The settings of a file. A file that is not there has none. -/
def loadFile (disk : Disk) (path : Bytes) : Except FileError Table :=
  match disk.stat path with
  | .error _ => .ok []
  | .ok _ =>
    match disk.read path with
    | .error cause => .error (.unreadable path cause)
    | .ok content =>
      match settings? content with
      | some t => .ok t
      | none => .error (.malformed path)

/-- The settings of a file, of the environment and of the command line. -/
def load (disk : Disk) (path : Bytes) (environment : List (Bytes × Bytes)) (flags : Table) :
    Except FileError Table :=
  (loadFile disk path).map fun file => ofLayers file (ofEnvironment environment) flags

end VarLint.Config
