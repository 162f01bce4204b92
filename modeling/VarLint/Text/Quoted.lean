import VarLint.Text.Rune
import VarLint.Text.Category

/-!
# Quoted text

Text between double quotes with everything that is not printable written as an escape: short escapes
for the usual control characters, `\x` with two digits for other small ones and for malformed bytes,
`\u` with four and `\U` with eight digits beyond.
-/

namespace VarLint

/-- Whether a character is printed as itself: letters, marks, numbers, punctuation, symbols and the
ordinary space. -/
def isPrintable (c : Char) : Bool :=
  if c.toNat < 0x80 then 0x20 ≤ c.toNat && c.toNat < 0x7F
  else
    [.uppercaseLetter, .lowercaseLetter, .titlecaseLetter, .modifierLetter, .otherLetter,
      .nonspacingMark, .spacingMark, .enclosingMark, .decimalNumber, .letterNumber, .otherNumber,
      .connectorPunctuation, .dashPunctuation, .openPunctuation, .closePunctuation,
      .initialPunctuation, .finalPunctuation, .otherPunctuation, .mathSymbol, .currencySymbol,
      .modifierSymbol, .otherSymbol].any fun category : Category => category.contains c.toNat

/-- The last `width` hexadecimal digits of a number, in small letters. -/
def hexDigits : Nat → Nat → Bytes
  | 0, _ => []
  | width + 1, n =>
    hexDigits width (n / 16) ++ [if n % 16 < 10 then (0x30 + n % 16).toUInt8
      else (0x57 + n % 16).toUInt8]

namespace Quoted

/-- A rune as it stands between quotes of the kind `mark`. -/
def encodeRune (mark : Char) (r : Rune) : Bytes :=
  if r.isMalformed then "\\x" ++ hexDigits 2 (r.bytes.headD 0).toNat
  else if r.char == mark || r.char == '\\' then "\\" ++ r.bytes
  else if isPrintable r.char then r.bytes
  else match r.char.toNat with
    | 7 => "\\a"
    | 8 => "\\b"
    | 9 => "\\t"
    | 10 => "\\n"
    | 11 => "\\v"
    | 12 => "\\f"
    | 13 => "\\r"
    | n =>
      if n < 0x20 || n == 0x7F then "\\x" ++ hexDigits 2 n
      else if n < 0x10000 then "\\u" ++ hexDigits 4 n
      else "\\U" ++ hexDigits 8 n

end Quoted

/-- The text between double quotes. -/
def Bytes.quote (s : Bytes) : Bytes :=
  "\"" ++ s.runes.flatMap (Quoted.encodeRune '"') ++ "\""

/-- A character between single quotes. -/
def quoteChar (c : Char) : Bytes :=
  "'" ++ Quoted.encodeRune '\'' (.ofChar c) ++ "'"

end VarLint
