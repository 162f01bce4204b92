import VarLint.Decimal
import VarLint.Path
import VarLint.Report.Basic

/-!
# Markdown reports

Tables of the findings for sharing. A vertical bar inside a cell is escaped, and the table of a
severity stops after fifty issues.
-/

namespace VarLint.Report

/-- How many issues of a severity are listed. -/
def markdownLimit : Nat := 50

/-- A text as the content of a table cell. -/
def cell (s : Bytes) : Bytes := s.flatMap fun b => if b == 0x7C then [0x5C, 0x7C] else [b]

/-- A text in code style as the content of a table cell. -/
def codeCell (s : Bytes) : Bytes := "\x60" ++ cell s ++ "\x60"

/-- A file as seen from the working directory. -/
def displayPath (setting : Setting) (file : Bytes) : Bytes :=
  (Path.relativeTo? setting.directory file).getD file

/-- A row of a table. -/
def row (cells : List Bytes) : Bytes := line ("| " ++ Bytes.join " | " cells ++ " |")

/-- The row of an issue. -/
def issueRow (setting : Setting) (i : Issue) : Bytes :=
  row
    ["\x60" ++ cell (displayPath setting i.file) ++ ":" ++ Bytes.ofInt i.line ++ ":"
        ++ Bytes.ofInt i.column ++ "\x60",
      codeCell i.property, codeCell i.value]

/-- A title line and the blank line below it. -/
def title (s : Bytes) : Bytes := line s ++ line []

/-- The section of one severity. -/
def issueSection (setting : Setting) (name : Bytes) (issues : List Issue) : Bytes :=
  title name ++ line "| Location | Property | Value |" ++ line "|----------|----------|-------|"
    ++ (issues.take markdownLimit).flatMap (issueRow setting)
    ++ (if markdownLimit < issues.length then
        line [] ++ line ("... and " ++ Bytes.ofNat (issues.length - markdownLimit) ++ " more")
      else [])
    ++ line []

/-- The overall judgement. -/
def status (f : Findings) : Bytes :=
  if 0 < f.errorCount then "🔴 Needs Attention"
  else if f.compliance ≥ 80 then "🟢 Excellent"
  else if f.compliance ≥ 50 then "🟡 Good Progress"
  else "🔴 Needs Attention"

/-- The listed issues of a severity. -/
def issuesOf (f : Findings) (severity : Bytes) : List Issue :=
  (f.issuesBySeverity.lookup severity).getD []

/-- The table of headline figures. -/
def headline (f : Findings) : Bytes :=
  title "## Executive Summary" ++ line "| Metric | Value |" ++ line "|--------|-------|"
    ++ row ["**Status**", status f]
    ++ row ["**Total Issues**", Bytes.ofNat f.issues.length ++ " ("
        ++ counted f.errorCount "error" "errors" ++ ", "
        ++ counted f.warningCount "warning" "warnings" ++ ")"]
    ++ row ["**Files Scanned**", Bytes.ofInt f.filesScanned]
    ++ row ["**Compliance**", Decimal.fixed 1 f.compliance ++ "%"]
    ++ row ["**Declarations Checked**", Bytes.ofInt f.checked ++ " / " ++ Bytes.ofInt f.found]
    ++ line []

/-- The row of a frequent literal. -/
def literalRow (l : LiteralCount) : Bytes :=
  row [codeCell l.value, Bytes.ofInt l.occurrences, cell (Bytes.join ", " l.properties)]

/-- The table of frequent literals. -/
def literalSection (f : Findings) : Bytes :=
  if f.topLiterals.isEmpty then []
  else
    title "## 🎯 Top Literals" ++ line "| Value | Occurrences | Properties |"
      ++ line "|-------|-------------|------------|" ++ f.topLiterals.flatMap literalRow ++ line []

/-- The table of categories. -/
def categorySection (f : Findings) : Bytes :=
  if f.violationsByCategory.isEmpty then []
  else
    title "## Violations by Category" ++ line "| Category | Violations |"
      ++ line "|----------|------------|"
      ++ f.violationsByCategory.flatMap (fun (c, n) => row [c, Bytes.ofInt n]) ++ line []

/-- The table of counts. -/
def countSection (f : Findings) : Bytes :=
  title "## 📊 Detailed Statistics" ++ line "| Metric | Count |" ++ line "|--------|-------|"
    ++ row ["Files Skipped", Bytes.ofInt f.filesSkipped]
    ++ row ["Using Variables", Bytes.ofInt f.acceptedByVariable]
    ++ row ["Allowed by Exception", Bytes.ofInt f.acceptedByException]
    ++ row ["Hard-coded Values", Bytes.ofInt f.violations]
    ++ (if 0 < f.truncated then row ["Truncated Issues", Bytes.ofInt f.truncated] else [])
    ++ line []

/-- The list of warnings about the run. -/
def noteSection (f : Findings) : Bytes :=
  if f.warnings.isEmpty then []
  else title "## Notes" ++ f.warnings.flatMap (fun w => line ("- " ++ w)) ++ line []

/-- The Markdown report. -/
def markdown (setting : Setting) (f : Findings) : Bytes :=
  title "# CSS Variable Report" ++ line ("_Generated " ++ setting.time ++ "_") ++ line []
    ++ headline f
    ++ (if 0 < f.errorCount then
        issueSection setting "## ❌ Errors" (issuesOf f Severity.error) else [])
    ++ (if 0 < f.warningCount then
        issueSection setting "## ⚠️ Warnings" (issuesOf f Severity.warning) else [])
    ++ literalSection f ++ categorySection f ++ countSection f ++ noteSection f
    ++ line "---" ++ line "*Generated by cssvars enforce-variable v1.0*"

end VarLint.Report
