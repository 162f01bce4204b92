import Std.Time
import VarLint.Clock
import VarLint.CommandLine.Run

/-!
# The program

Reads the arguments, the environment and the files, runs the command, and prints, writes and waits
as it says. All decisions are made by the command; nothing here but input and output.
-/

open VarLint VarLint.CommandLine

namespace VarLint.Program

/-- A string as the bytes of it. -/
def bytes (s : String) : Bytes := .ofString s

/-- Bytes as a string, for paths. -/
def string (s : Bytes) : String := String.ofList s.chars

/-- How deep directories are read. -/
def depthLimit : Nat := 64

/-- The time of modification in nanoseconds. -/
def modified (m : IO.FS.Metadata) : Int := m.modified.sec * 1000000000 + m.modified.nsec.toNat

/-- Reads what is at a path. The content of third-party files is not needed. -/
def readNode : Nat → String → IO (Option Node)
  | 0, _ => return none
  | depth + 1, path => do
    let here := (← IO.currentDir) / path
    let some metadata ← (some <$> here.metadata) <|> pure none | return none
    let size := metadata.byteSize.toNat
    if ← here.isDir then
      let entries ← here.readDir <|> pure #[]
      let mut children := []
      for entry in entries do
        if let some child ← readNode depth (here / entry.fileName).toString then
          children := Node.insertChild (bytes entry.fileName) child children
      return some (.directory children size (modified metadata))
    else if isVendored (bytes path) then
      return some (.unreadable (modified metadata) size)
    else
      try
        let content ← IO.FS.readBinFile here
        return some (.file content.toList (modified metadata))
      catch _ => return some (.unreadable (modified metadata) size)

/-- A disk with what is at the given paths. -/
def readDisk (paths : List Bytes) : IO Disk := do
  let directory := bytes (← IO.currentDir).toString
  let mut disk : Disk := Disk.put ⟨.emptyDirectory, directory⟩ directory .emptyDirectory
  for path in paths do
    if let some node ← readNode depthLimit (string path) then
      disk := disk.put path node
  return disk

/-- The environment variables. -/
def readEnvironment : IO (List (Bytes × Bytes)) := do
  let content ← IO.FS.readBinFile "/proc/self/environ" <|> pure .empty
  return (Bytes.splitOn 0 content.toList).filterMap fun entry => Bytes.cut? (bytes "=") entry

/-- The seconds since the start of 1970. -/
def now : IO Nat := do return (← Std.Time.Timestamp.now).toSecondsSinceUnixEpoch.val.toNat

/-- Writes bytes to a stream. -/
def write (stream : IO.FS.Stream) (s : Bytes) : IO Unit := do
  stream.write ⟨s.toArray⟩
  stream.flush

/-- How long a watch waits before it looks at the files again, in milliseconds. -/
def pause : UInt32 := 200

/-- Goes on with a watch for as long as the program runs. -/
partial def keepWatching (i : Invocation) (bases : List Bytes) (w : Watching) : IO Unit := do
  IO.sleep pause
  let seconds ← now
  let i := { i with disk := ← readDisk bases, time := Clock.render seconds }
  let (output, remarks, w) := w.poll i (Clock.timeOfDay seconds)
  write (← IO.getStderr) remarks
  write (← IO.getStdout) output
  keepWatching i bases w

/-- Runs the command that the arguments name. -/
def run (arguments : List Bytes) : IO UInt32 := do
  let environment ← readEnvironment
  let config := configFileOf arguments
  let isTerminal ← (← IO.getStdout).isTty
  let i : Invocation :=
    { disk := ← readDisk [config], arguments, environment, isTerminal
      profile := if isTerminal then .ansi else .ascii, time := Clock.render (← now)
      cancelled := false }
  let bases := basesOf i ++ [Ignore.fileName, config, Config.defaultFile]
  let i := { i with disk := ← readDisk bases }
  let outcome := CommandLine.run i
  for (path, content) in outcome.written do
    IO.FS.writeBinFile (string path) ⟨content.toArray⟩
  write (← IO.getStderr) outcome.remarks
  write (← IO.getStdout) outcome.output
  write (← IO.getStderr) outcome.errorLine
  if let some w := outcome.watching then keepWatching i bases w
  return outcome.exitCode.toUInt32

end VarLint.Program

/-- The program. -/
def main (arguments : List String) : IO UInt32 :=
  VarLint.Program.run (arguments.map VarLint.Program.bytes)
