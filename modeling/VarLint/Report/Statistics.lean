import VarLint.Decimal
import VarLint.Report.Basic

/-!
# Statistics

Counts, a bar of compliance, the violations by category and the most frequent literals.
-/

namespace VarLint.Report

/-- A heading with a rule of hyphens below it. -/
def heading (o : Options) (style : Style) (title : Bytes) : Bytes :=
  line [] ++ line (style.render o.paint title) ++ line (List.replicate title.length 0x2D)

/-- Counts of files and declarations. -/
def counts (o : Options) (f : Findings) : Bytes :=
  let row := fun (label : Bytes) (n : Int) => line (label ++ Bytes.ofInt n)
  heading o .cyan "Variable Usage Statistics"
    ++ row "Files Scanned:           " f.filesScanned
    ++ row "Files Skipped:           " f.filesSkipped
    ++ row "Declarations Found:      " f.found
    ++ row "Declarations Checked:    " f.checked
    ++ row "Using Variables:         " f.acceptedByVariable
    ++ row "Allowed by Exception:    " f.acceptedByException
    ++ row "Hard-coded Values:       " f.violations

/-- The number of cells of a bar. -/
def barWidth : Nat := 20

/-- The number of filled cells for a percentage: its share of the bar rounded toward zero, nothing
below zero or beyond the range of 64-bit integers, and the whole bar from a hundred percent on. -/
def filledCells (percentage : Float) : Nat :=
  let cells := percentage / 100 * Float.ofNat barWidth
  if cells < 0 then 0
  else if cells < 9223372036854775808 then min cells.toUInt64.toNat barWidth
  else 0

/-- A bar that shows a percentage. -/
def progressBar (percentage : Float) : Bytes :=
  let filled := filledCells percentage
  line ("[" ++ Bytes.times filled "█" ++ Bytes.times (barWidth - filled) "░" ++ "] "
    ++ Decimal.fixed 1 percentage ++ "%")

/-- The bar of compliance. -/
def compliance (o : Options) (f : Findings) : Bytes :=
  heading o .cyan "Compliance" ++ progressBar f.compliance

/-- A text padded with spaces to the given number of characters. -/
def padded (width : Nat) (s : Bytes) : Bytes := s ++ List.replicate (width - s.runeCount) 0x20

/-- Violations by category. -/
def categories (o : Options) (f : Findings) : Bytes :=
  if f.violationsByCategory.isEmpty then []
  else
    heading o .cyan "Violations by Category"
      ++ f.violationsByCategory.flatMap fun (category, n) =>
        line (padded 12 (category ++ ":") ++ " " ++ Bytes.ofInt n)

/-- The most frequent literals, numbered. -/
def topLiterals (o : Options) (f : Findings) : Bytes :=
  if f.topLiterals.isEmpty then []
  else
    heading o .green "Top Literals"
      ++ (f.topLiterals.zipIdx 1).flatMap fun (l, i) =>
        line (Bytes.ofNat i ++ ". " ++ l.value.quote ++ " - "
          ++ counted l.occurrences "occurrence" "occurrences"
          ++ " (" ++ Bytes.join ", " l.properties ++ ")")

/-- Warnings about the run. -/
def warnings (o : Options) (f : Findings) : Bytes :=
  if f.warnings.isEmpty then []
  else heading o .yellow "Warnings" ++ f.warnings.flatMap fun w => line ("• " ++ w)

/-- All statistics. -/
def statistics (o : Options) (f : Findings) : Bytes :=
  counts o f ++ compliance o f ++ categories o f ++ topLiterals o f ++ warnings o f

end VarLint.Report
