import VarLint.Cache
import VarLint.Findings
import VarLint.Log
import VarLint.Scan

/-!
# Linting

A run scans for style sheets, loads the declarations of each, and checks them all together. A file
that cannot be loaded counts as skipped. A run that is cancelled before a file is loaded has no
findings.
-/

namespace VarLint

/-- What is to be checked. -/
structure LintJob where
  rule : Option Rule
  patterns : List Bytes
  options : CheckOptions

/-- What one run leaves for the next: the remembered ignore file, and the cache if there is one. -/
structure LintMemory where
  ignore : IgnoreMemo := none
  cache : Option Cache := none

/-- Why a run has no findings. -/
inductive LintError where
  | noRule
  | malformedPattern
  | cancelled
  deriving DecidableEq, Repr

/-- The text of an error. -/
def LintError.message : LintError → Bytes
  | noRule => "lint config has no rule"
  | malformedPattern => "failed to scan files: " ++ Scan.malformedMessage
  | cancelled => "lint cancelled: context canceled"

namespace Lint

/-- What a file contributes to a run. -/
structure Slot where
  file : Bytes
  answer : Except LoadError Loaded

/-- The declarations of a file, if it could be loaded. -/
def Slot.declarations? (s : Slot) : Option (List Declaration) :=
  match s.answer with
  | .ok loaded => some loaded.declarations
  | .error _ => none

/-- What is said about a file. -/
def Slot.entry (s : Slot) : Log.Entry :=
  match s.answer with
  | .ok loaded =>
    ⟨.debug, "parsed stylesheet",
      [("file", s.file), ("declarations", Bytes.ofNat loaded.declarations.length),
        ("cached", Log.boolText loaded.cached)]⟩
  | .error e =>
    ⟨.warning, "skipping unreadable stylesheet", [("file", s.file), ("error", e.message)]⟩

/-- Loads the files one after another. -/
def loadAll (disk : Disk) : Option Cache → List Bytes → List Slot × Option Cache
  | cache, [] => ([], cache)
  | cache, file :: files =>
    let (answer, cache) := Loaded.load disk cache file
    let (slots, cache) := loadAll disk cache files
    (⟨file, answer⟩ :: slots, cache)

/-- The findings of loaded files; `skipped` more were left out before. -/
def findingsOf (rule : Rule) (o : CheckOptions) (skipped : Nat) (slots : List Slot) : Findings :=
  let loaded := slots.filterMap Slot.declarations?
  { Findings.ofDeclarations rule o loaded.flatten with
    filesScanned := loaded.length
    filesSkipped := (skipped : Int) + (slots.length - loaded.length) }

/-- The outcome of a run: its findings, what it leaves for the next run, and what it says. -/
structure Outcome where
  answer : Except LintError Findings
  memory : LintMemory
  log : List Log.Entry

/-- One run. -/
def run (disk : Disk) (job : LintJob) (cancelled : Bool) (memory : LintMemory) : Outcome :=
  match job.rule with
  | none => ⟨.error .noRule, memory, []⟩
  | some rule =>
    match Scan.run disk memory.ignore job.patterns with
    | (none, ignore) => ⟨.error .malformedPattern, { memory with ignore }, []⟩
    | (some scan, ignore) =>
      let scanned : Log.Entry :=
        ⟨.debug, "scanned stylesheets",
          [("discovered", Bytes.ofNat scan.discovered), ("skipped", Bytes.ofNat scan.skipped)]⟩
      if cancelled && !scan.files.isEmpty then
        ⟨.error .cancelled, { memory with ignore }, [scanned]⟩
      else
        let (slots, cache) := loadAll disk memory.cache scan.files
        let findings := findingsOf rule job.options scan.skipped slots
        let finished : Log.Entry :=
          ⟨.info, "lint finished",
            [("files", Bytes.ofInt findings.filesScanned),
              ("issues", Bytes.ofNat findings.issues.length)]⟩
        ⟨.ok findings, ⟨ignore, cache⟩, scanned :: slots.map Slot.entry ++ [finished]⟩

end Lint

end VarLint
