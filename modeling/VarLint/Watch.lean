import VarLint.Lint

/-!
# Watching

A watch lints once, and again when something has changed that matters: a style sheet in a watched
directory, or a directory that has come there. Watched are the directories where the patterns start,
with everything below them but hidden and third-party directories, and the directories that come
later. Changes gather until the clock ticks. A cache lasts from run to run.
-/

namespace VarLint

namespace Disk

/-- The entries of the directory at a path. -/
def entries (d : Disk) (path : Bytes) : List (Bytes × Node) :=
  match d.find path with
  | .ok node => node.children
  | .error _ => []

/-- Whether a path leads to a directory. -/
def isDirectoryAt (d : Disk) (path : Bytes) : Bool :=
  match d.find path with
  | .ok node => node.isDirectory
  | .error _ => false

end Disk

namespace Watch

/-! ## Watched directories -/

/-- The directory part of a path. -/
def directoryOf (path : Bytes) : Bytes :=
  match Bytes.lastIndexOf? Path.slash path with
  | some i => Path.clean (path.take (i + 1))
  | none => Path.here

/-- The existing directories where the expansion of the patterns starts, each once. -/
def roots (disk : Disk) (patterns : List Bytes) : List Bytes :=
  Tally.distinct (patterns.filterMap fun pattern =>
    let (base, _) := Glob.split pattern
    match disk.stat base with
    | .error _ => none
    | .ok s => some (if s.isDirectory then base else directoryOf base))

/-- Whether a directory below another one is left out by its name. -/
def isLeftOut (name : Bytes) : Bool := name == "node_modules" || name.head? == some 0x2E

mutual

/-- A directory and the directories below it. -/
def directoriesIn (path : Bytes) : Node → List Bytes
  | .directory children .. => path :: directoriesAmong path children
  | _ => []

/-- The directories among the children of `path`, each with those below it. -/
def directoriesAmong (path : Bytes) : List (Bytes × Node) → List Bytes
  | [] => []
  | (name, child) :: rest =>
    (if isLeftOut name then [] else directoriesIn (Path.join path name) child)
      ++ directoriesAmong path rest

end

/-- The directory at a path, if there is one, with those below it. -/
def directoriesFrom (disk : Disk) (path : Bytes) : List Bytes :=
  match disk.find path with
  | .ok node => directoriesIn path node
  | .error _ => []

/-- The directories that are watched at first. -/
def directories (disk : Disk) (patterns : List Bytes) : List Bytes :=
  (roots disk patterns).flatMap (directoriesFrom disk)

/-- What is said about directories that are watched from now on. -/
def watchLog (directories : List Bytes) : List Log.Entry :=
  directories.map fun d => ⟨.debug, "watching directory", [("dir", d)]⟩

/-! ## What a disk shows -/

/-- What has happened to an entry of a directory. -/
inductive EventKind where
  | created
  | written
  | removed
  deriving DecidableEq, Repr

/-- The name of what has happened. -/
def EventKind.name : EventKind → Bytes
  | created => "CREATE"
  | written => "WRITE"
  | removed => "REMOVE"

/-- Something that has happened to the entry of a watched directory at a path. -/
structure Event where
  kind : EventKind
  path : Bytes
  deriving DecidableEq, Repr

/-- Whether a file is not what it was. -/
def isRewritten : Node → Node → Bool
  | .file content modified, .file content' modified' =>
    !(content == content' && modified == modified')
  | .unreadable modified size, .unreadable modified' size' =>
    !(modified == modified' && size == size')
  | _, _ => true

/-- What shows of an entry, from what it was and what it is. A directory that stays one shows
nothing here: what happens in it shows there. -/
def eventsAt (path : Bytes) : Option Node → Option Node → List Event
  | none, none => []
  | none, some _ => [⟨.created, path⟩]
  | some _, none => [⟨.removed, path⟩]
  | some old, some new =>
    if old.isDirectory && new.isDirectory then []
    else if old.isDirectory || new.isDirectory then [⟨.removed, path⟩, ⟨.created, path⟩]
    else if isRewritten old new then [⟨.written, path⟩] else []

/-- What shows in a directory when the disk becomes another one. -/
def eventsIn (before after : Disk) (directory : Bytes) : List Event :=
  let old := before.entries directory
  let new := after.entries directory
  (Tally.distinct ((old ++ new).map Prod.fst)).flatMap fun name =>
    eventsAt (Path.join directory name) (old.lookup name) (new.lookup name)

/-- What shows in the watched directories when the disk becomes one disk after another. A directory
that is gone is not watched any more. -/
def eventsThrough (watched : List Bytes) (disk : Disk) : List Disk → List Event
  | [] => []
  | next :: rest =>
    watched.flatMap (eventsIn disk next)
      ++ eventsThrough (watched.filter next.isDirectoryAt) next rest

/-! ## Steps -/

/-- A watch after its first run. -/
structure State where
  disk : Disk
  watched : List Bytes
  /-- Whether there has been a change that matters since the last run. -/
  pending : Bool := false
  memory : LintMemory

/-- What a watch reacts to. -/
inductive Signal where
  /-- The disk has become another one. -/
  | change (disk : Disk)
  /-- Something has happened to an entry of a watched directory. -/
  | event (e : Event)
  /-- The clock ticks. -/
  | tick

/-- What a watch does: the state it is in then, the findings it delivers, and what it says. -/
structure Turn where
  state : State
  findings : List Findings := []
  log : List Log.Entry := []

/-- The turn for an event. A directory that has come is watched with those below it. -/
def State.handle (s : State) (e : Event) : Turn :=
  let found := if e.kind = .created then directoriesFrom s.disk e.path else []
  if !found.isEmpty then
    { state := { s with watched := Tally.distinct (s.watched ++ found), pending := true }
      log := watchLog found }
  else if isStylesheet e.path then
    { state := { s with pending := true }
      log := [⟨.debug, "stylesheet changed", [("file", e.path), ("op", e.kind.name)]⟩] }
  else { state := s }

/-- The turn for a tick: a run, if one is due. -/
def State.tick (job : LintJob) (s : State) : Turn :=
  if !s.pending then { state := s }
  else
    let run := Lint.run s.disk job false s.memory
    let state := { s with pending := false, memory := run.memory }
    match run.answer with
    | .ok findings => ⟨state, [findings], run.log⟩
    | .error e => ⟨state, [], run.log ++ [⟨.error, "lint run failed", [("error", e.message)]⟩]⟩

/-- The turn for a signal. -/
def step (job : LintJob) (s : State) : Signal → Turn
  | .change disk => { state := { s with disk, watched := s.watched.filter disk.isDirectoryAt } }
  | .event e => s.handle e
  | .tick => s.tick job

/-- The turns for signals one after the other. -/
def run (job : LintJob) : State → List Signal → Turn
  | s, [] => { state := s }
  | s, signal :: rest =>
    let now := step job s signal
    let later := run job now.state rest
    ⟨later.state, now.findings ++ later.findings, now.log ++ later.log⟩

/-- The signals between two runs: the disk becomes one disk after another, what this shows arrives,
and the clock ticks. -/
def State.round (s : State) (disks : List Disk) : List Signal :=
  disks.map .change ++ (eventsThrough s.watched s.disk disks).map .event ++ [.tick]

/-! ## Whole watches -/

/-- Why a watch ends with an error. -/
inductive Error where
  | noListener
  | lint (cause : LintError)
  deriving DecidableEq, Repr

/-- The text of an error. -/
def Error.message : Error → Bytes
  | noListener => "watch requires an OnResult callback"
  | lint cause => cause.message

/-- The cache of a watch: the given one, or one of the default size. -/
def startMemory (memory : LintMemory) : LintMemory :=
  { memory with cache := some (memory.cache.getD (.empty 0)) }

/-- A watch before its first run. -/
def start (disk : Disk) (job : LintJob) (memory : LintMemory) : State :=
  { disk
    watched := Tally.distinct (directories disk job.patterns)
    memory := startMemory memory }

/-- The first run of a watch. A watch that is cancelled before it can finish its first run ends
without an error and without findings. -/
def first (disk : Disk) (job : LintJob) (cancelled : Bool) (memory : LintMemory) :
    Except Error (Option Findings) × State × List Log.Entry :=
  let s := start disk job memory
  if job.rule.isNone then (.error (.lint .noRule), s, [])
  else
    let outcome := Lint.run disk job cancelled s.memory
    let s := { s with memory := outcome.memory }
    let log := watchLog (directories disk job.patterns) ++ outcome.log
    match outcome.answer with
    | .ok findings => (.ok (some findings), s, log)
    | .error e => if cancelled then (.ok none, s, log) else (.error (.lint e), s, log)

/-- A change to the disk. -/
inductive Change where
  | put (path : Bytes) (node : Node)
  | remove (path : Bytes)

/-- The disk after a change. -/
def Change.apply (d : Disk) : Change → Disk
  | put path node => d.put path node
  | remove path => d.remove path

/-- The disks that changes lead to, one after another. -/
def stages (disk : Disk) : List Change → List Disk
  | [] => []
  | change :: changes => change.apply disk :: stages (change.apply disk) changes

/-- The findings that are delivered after the first ones, with one round for each group of
changes. -/
def again (job : LintJob) : State → List (List Change) → List Findings
  | _, [] => []
  | s, group :: groups =>
    let turn := run job s (s.round (stages s.disk group))
    turn.findings ++ again job turn.state groups

/-- The findings that a watch delivers until it is cancelled after the last group. -/
def results (disk : Disk) (job : LintJob) (listens cancelled : Bool) (memory : LintMemory)
    (groups : List (List Change)) : Except Error (List Findings) :=
  if job.rule.isNone then .error (.lint .noRule)
  else if !listens then .error .noListener
  else match first disk job cancelled memory with
    | (.error e, _, _) => .error e
    | (.ok none, _, _) => .ok []
    | (.ok (some findings), s, _) => .ok (findings :: if cancelled then [] else again job s groups)

end Watch

end VarLint
