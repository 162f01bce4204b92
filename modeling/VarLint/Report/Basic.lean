import VarLint.Findings
import VarLint.Report.Style

/-!
# Reports in general

What all report formats share: the options that shape a report, counted nouns, and lines.
-/

namespace VarLint.Report

/-- What a report shows. -/
structure Options where
  /-- Whether the line of an issue is shown. -/
  printLines : Bool := true
  /-- Whether the name of the rule is shown. -/
  printLinter : Bool := true
  /-- Whether the literals of an issue are shown. -/
  verbose : Bool := false
  /-- Whether colours are used, and what the terminal makes of them. -/
  paint : Option Profile := none
  deriving DecidableEq, Repr

/-- Where and when a report is written: the working directory, and the time as it is printed. -/
structure Setting where
  directory : Bytes
  time : Bytes
  deriving DecidableEq, Repr

/-- A line of text. -/
def line (s : Bytes) : Bytes := s ++ "\n"

/-- A number with the noun it counts. -/
def counted (n : Int) (one many : Bytes) : Bytes :=
  Bytes.ofInt n ++ " " ++ (if n = 1 then one else many)

/-- Literals in quotes, separated by commas. -/
def quotedList (literals : List Bytes) : Bytes := Bytes.join ", " (literals.map Bytes.quote)

/-- Whether reports are coloured: if asked for, and otherwise as the environment says, and on a
terminal. A variable that disables colours wins over what enables them. -/
def wantsColors (requested isTerminal : Bool) (env : Bytes → Option Bytes) : Bool :=
  let value := fun name : Bytes => (env name).getD []
  requested ||
    ((value "NO_COLOR").isEmpty &&
      (!(value "FORCE_COLOR").isEmpty || value "GITHUB_ACTIONS" == "true" || isTerminal))

end VarLint.Report
