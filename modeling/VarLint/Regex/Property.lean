import VarLint.Regex.Basic
import VarLint.Text.Category
import VarLint.Text.Script

/-!
# Character properties by name

The classes that an expression may name: the bracketed ASCII classes, and the general categories and
scripts of Unicode. Property names are compared without regard to letter case, spaces, hyphens and
underscores.
-/

namespace VarLint.Regex

/-- The spans of an ASCII class by its name. -/
def asciiClass? : String → Option (List Span)
  | "alnum" => some [⟨0x30, 0x39, 1⟩, ⟨0x41, 0x5A, 1⟩, ⟨0x61, 0x7A, 1⟩]
  | "alpha" => some [⟨0x41, 0x5A, 1⟩, ⟨0x61, 0x7A, 1⟩]
  | "ascii" => some [⟨0x00, 0x7F, 1⟩]
  | "blank" => some [⟨0x09, 0x09, 1⟩, ⟨0x20, 0x20, 1⟩]
  | "cntrl" => some [⟨0x00, 0x1F, 1⟩, ⟨0x7F, 0x7F, 1⟩]
  | "digit" => some [⟨0x30, 0x39, 1⟩]
  | "graph" => some [⟨0x21, 0x7E, 1⟩]
  | "lower" => some [⟨0x61, 0x7A, 1⟩]
  | "print" => some [⟨0x20, 0x7E, 1⟩]
  | "punct" => some [⟨0x21, 0x2F, 1⟩, ⟨0x3A, 0x40, 1⟩, ⟨0x5B, 0x60, 1⟩, ⟨0x7B, 0x7E, 1⟩]
  | "space" => some [⟨0x09, 0x0D, 1⟩, ⟨0x20, 0x20, 1⟩]
  | "upper" => some [⟨0x41, 0x5A, 1⟩]
  | "word" => some [⟨0x30, 0x39, 1⟩, ⟨0x41, 0x5A, 1⟩, ⟨0x5F, 0x5F, 1⟩, ⟨0x61, 0x7A, 1⟩]
  | "xdigit" => some [⟨0x30, 0x39, 1⟩, ⟨0x41, 0x46, 1⟩, ⟨0x61, 0x66, 1⟩]
  | _ => none

/-- The item of an ASCII class name, which `^` negates. -/
def asciiItem? (name : List Char) : Option ClassItem :=
  match name with
  | '^' :: rest => (asciiClass? (String.ofList rest)).map fun spans => ⟨true, spans⟩
  | _ => (asciiClass? (String.ofList name)).map fun spans => ⟨false, spans⟩

/-- The form of a property name in which names are compared. -/
def propertyKey (name : List Char) : String :=
  String.ofList ((name.filter fun c => c != '_' && c != '-' && c != ' ').map fun c =>
    if 'A' ≤ c && c ≤ 'Z' then Char.ofNat (c.toNat + 0x20) else c)

/-- The spans of several categories. -/
def categories (cs : List Category) : List Span := cs.flatMap Category.spans

/-- Letters that distinguish case. -/
def casedLetters : List Category := [.uppercaseLetter, .lowercaseLetter, .titlecaseLetter]

/-- Letters. -/
def letters : List Category := casedLetters ++ [.modifierLetter, .otherLetter]

/-- Combining marks. -/
def marks : List Category := [.nonspacingMark, .spacingMark, .enclosingMark]

/-- Numbers. -/
def numbers : List Category := [.decimalNumber, .letterNumber, .otherNumber]

/-- Punctuation. -/
def punctuation : List Category :=
  [.connectorPunctuation, .dashPunctuation, .openPunctuation, .closePunctuation,
    .initialPunctuation, .finalPunctuation, .otherPunctuation]

/-- Symbols. -/
def symbols : List Category := [.mathSymbol, .currencySymbol, .modifierSymbol, .otherSymbol]

/-- Separators. -/
def separators : List Category := [.spaceSeparator, .lineSeparator, .paragraphSeparator]

/-- The item of a category name, given as a key. -/
def categoryItem? (key : String) : Option ClassItem :=
  let of := fun cs : List Category => some (⟨false, categories cs⟩ : ClassItem)
  match key with
  | "l" | "letter" => of letters
  | "lc" | "casedletter" => of casedLetters
  | "lu" | "uppercaseletter" => of [.uppercaseLetter]
  | "ll" | "lowercaseletter" => of [.lowercaseLetter]
  | "lt" | "titlecaseletter" => of [.titlecaseLetter]
  | "lm" | "modifierletter" => of [.modifierLetter]
  | "lo" | "otherletter" => of [.otherLetter]
  | "m" | "mark" | "combiningmark" => of marks
  | "mn" | "nonspacingmark" => of [.nonspacingMark]
  | "mc" | "spacingmark" => of [.spacingMark]
  | "me" | "enclosingmark" => of [.enclosingMark]
  | "n" | "number" => of numbers
  | "nd" | "decimalnumber" | "digit" => of [.decimalNumber]
  | "nl" | "letternumber" => of [.letterNumber]
  | "no" | "othernumber" => of [.otherNumber]
  | "p" | "punctuation" | "punct" => of punctuation
  | "pc" | "connectorpunctuation" => of [.connectorPunctuation]
  | "pd" | "dashpunctuation" => of [.dashPunctuation]
  | "ps" | "openpunctuation" => of [.openPunctuation]
  | "pe" | "closepunctuation" => of [.closePunctuation]
  | "pi" | "initialpunctuation" => of [.initialPunctuation]
  | "pf" | "finalpunctuation" => of [.finalPunctuation]
  | "po" | "otherpunctuation" => of [.otherPunctuation]
  | "s" | "symbol" => of symbols
  | "sm" | "mathsymbol" => of [.mathSymbol]
  | "sc" | "currencysymbol" => of [.currencySymbol]
  | "sk" | "modifiersymbol" => of [.modifierSymbol]
  | "so" | "othersymbol" => of [.otherSymbol]
  | "z" | "separator" => of separators
  | "zs" | "spaceseparator" => of [.spaceSeparator]
  | "zl" | "lineseparator" => of [.lineSeparator]
  | "zp" | "paragraphseparator" => of [.paragraphSeparator]
  | "c" | "other" =>
    some ⟨true, categories (letters ++ marks ++ numbers ++ punctuation ++ symbols ++ separators)⟩
  | "cc" | "control" | "cntrl" => of [.control]
  | "cf" | "format" => of [.format]
  | "co" | "privateuse" => of [.privateUse]
  | "cs" | "surrogate" => of [.surrogate]
  | "cn" | "unassigned" => some ⟨true, categories Category.all⟩
  | "any" => some ⟨true, []⟩
  | "assigned" => of Category.all
  | "ascii" => some ⟨false, [⟨0x00, 0x7F, 1⟩]⟩
  | _ => none

/-- The item of a property name: a category or a script. -/
def propertyItem? (name : List Char) : Option ClassItem :=
  let key := propertyKey name
  match categoryItem? key with
  | some item => some item
  | none =>
    (Script.table.find? fun (script, _) => propertyKey script.toList == key).map
      fun (_, spans) => ⟨false, spans⟩

end VarLint.Regex
