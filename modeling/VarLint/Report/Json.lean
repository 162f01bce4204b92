import VarLint.Decimal
import VarLint.Report.Basic
import VarLint.Text.Quoted

/-!
# Structured reports

The findings as a JSON document, indented by two spaces. Characters that matter to HTML and the two
line separators of Unicode are escaped, and a malformed byte becomes a replacement character.
-/

namespace VarLint.Report

/-- A JSON document; numbers are kept as their text. -/
inductive JsonValue where
  | null
  | number (text : Bytes)
  | string (text : Bytes)
  | array (items : List JsonValue)
  | object (fields : List (Bytes × JsonValue))

namespace JsonValue

/-- A character inside a JSON string. -/
def escapeChar (c : Char) : Bytes :=
  match c.toNat with
  | 0x08 => "\\b"
  | 0x09 => "\\t"
  | 0x0A => "\\n"
  | 0x0C => "\\f"
  | 0x0D => "\\r"
  | 0x22 => "\\\""
  | 0x5C => "\\\\"
  | n =>
    if n < 0x20 || c == '<' || c == '>' || c == '&' || n == 0x2028 || n == 0x2029 then
      "\\u" ++ hexDigits 4 n
    else String.utf8EncodeChar c

/-- A JSON string with its quotes. -/
def quoted (s : Bytes) : Bytes := "\"" ++ s.chars.flatMap escapeChar ++ "\""

/-- A line break with the indentation of the given depth. -/
def indent (depth : Nat) : Bytes := 0x0A :: List.replicate (2 * depth) 0x20

mutual

/-- The text of a document at the given depth. -/
def render (depth : Nat) : JsonValue → Bytes
  | null => "null"
  | number text => text
  | string text => quoted text
  | array [] => "[]"
  | array (item :: items) =>
    "[" ++ indent (depth + 1) ++ render (depth + 1) item ++ renderItems (depth + 1) items
      ++ indent depth ++ "]"
  | object [] => "\x7b\x7d"
  | object ((key, value) :: fields) =>
    "\x7b" ++ indent (depth + 1) ++ quoted key ++ ": " ++ render (depth + 1) value
      ++ renderFields (depth + 1) fields ++ indent depth ++ "\x7d"

/-- The items behind the first one. -/
def renderItems (depth : Nat) : List JsonValue → Bytes
  | [] => []
  | item :: items => "," ++ indent depth ++ render depth item ++ renderItems depth items

/-- The fields behind the first one. -/
def renderFields (depth : Nat) : List (Bytes × JsonValue) → Bytes
  | [] => []
  | (key, value) :: fields =>
    "," ++ indent depth ++ quoted key ++ ": " ++ render depth value ++ renderFields depth fields

end

/-- An integer. -/
def ofInt (n : Int) : JsonValue := number (.ofInt n)

/-- A list of strings. -/
def ofTexts (xs : List Bytes) : JsonValue := array (xs.map string)

/-- Numbers get an exponent below a millionth and from 10^21 on. -/
def floatLayout : Decimal.Layout := ⟨-6, 21, 1⟩

end JsonValue

open JsonValue in
/-- An issue; literals and source are left out where there are none. -/
def issueJson (i : Issue) : JsonValue :=
  let source := i.source.headD []
  let always : List (Bytes × JsonValue) :=
    [("file", string i.file), ("line", ofInt i.line), ("column", ofInt i.column),
      ("severity", string i.severity), ("message", string i.text), ("linter", string i.linter),
      ("property", string i.property), ("value", string i.value)]
  let literals : List (Bytes × JsonValue) :=
    if i.literals.isEmpty then [] else [("literals", ofTexts i.literals)]
  let excerpt : List (Bytes × JsonValue) :=
    if source.isEmpty then [] else [("source", string source)]
  object (always ++ literals ++ excerpt)

open JsonValue in
/-- A frequent literal. -/
def literalJson (l : LiteralCount) : JsonValue :=
  object
    [("value", string l.value), ("occurrences", ofInt l.occurrences),
      ("properties", if l.properties.isEmpty then null else ofTexts l.properties)]

/-- The violations of each category, in byte order of the names; of two entries with one name the
last one counts. -/
def categoryTable (entries : List (Bytes × Int)) : List (Bytes × Int) :=
  ((Tally.distinct (entries.map Prod.fst)).mergeSort Tally.bytesLe).filterMap fun name =>
    (entries.reverse.find? fun e => e.1 == name)

open JsonValue in
/-- The document of the findings. -/
def jsonDocument (setting : Setting) (f : Findings) : JsonValue :=
  object
    [("version", string "1.0"), ("timestamp", string setting.time),
      ("summary", object
        [("total_issues", ofInt f.issues.length),
          ("errors", ofInt (Findings.countSeverity Severity.error f.issues)),
          ("warnings", ofInt (Findings.countSeverity Severity.warning f.issues)),
          ("truncated", ofInt f.truncated), ("files_scanned", ofInt f.filesScanned)]),
      ("stats", object
        [("files_skipped", ofInt f.filesSkipped), ("declarations_found", ofInt f.found),
          ("declarations_checked", ofInt f.checked),
          ("accepted_by_variable", ofInt f.acceptedByVariable),
          ("accepted_by_exception", ofInt f.acceptedByException),
          ("violations", ofInt f.violations),
          ("compliance_percentage", number (floatLayout.render f.compliance))]),
      ("issues", array (f.issues.map issueJson)),
      ("top_literals", array (f.topLiterals.map literalJson)),
      ("categories",
        object ((categoryTable f.violationsByCategory).map fun (c, n) => (c, ofInt n)))]

/-- The structured report. -/
def json (setting : Setting) (f : Findings) : Bytes := line ((jsonDocument setting f).render 0)

end VarLint.Report
