import VarLint.Stylesheet.Token

/-!
# Cutting style sheets into tokens

The class of a token is decided by its first byte, and its extent by what follows. Recognisers
return the number of bytes they take. A walk that is in the middle of an escape carries the number
of bytes it still has to pass.
-/

namespace VarLint.Stylesheet

/-! ## Byte classes -/

/-- A line feed, carriage return or form feed. -/
def isNewline (b : UInt8) : Bool := b == 0x0A || b == 0x0D || b == 0x0C

/-- A space, a tab or a newline. -/
def isSpace (b : UInt8) : Bool := b == 0x20 || b == 0x09 || isNewline b

/-- An ASCII digit. -/
def isDigit (b : UInt8) : Bool := 0x30 ≤ b && b ≤ 0x39

/-- An ASCII letter. -/
def isLetter (b : UInt8) : Bool := (0x61 ≤ b && b ≤ 0x7A) || (0x41 ≤ b && b ≤ 0x5A)

/-- A hexadecimal digit. -/
def isHex (b : UInt8) : Bool := isDigit b || (0x61 ≤ b && b ≤ 0x66) || (0x41 ≤ b && b ≤ 0x46)

/-- A byte that can start a name. -/
def isNameStart (b : UInt8) : Bool := isLetter b || b == 0x5F || 0x80 ≤ b

/-- A byte that can continue a name. -/
def isName (b : UInt8) : Bool := isNameStart b || isDigit b || b == 0x2D

/-- The backslash. -/
def backslash : UInt8 := 0x5C

/-! ## Escapes, names and numbers -/

/-- The length of the escape at the start of the text: a backslash with up to six hexadecimal digits
and one optional white space, with a whole character, or with any other byte but a newline. -/
def escape? : Bytes → Option Nat
  | b :: c :: rest =>
    if b != backslash || isNewline c then none
    else if isHex c then
      let digits := ((rest.take 5).takeWhile isHex).length
      some (2 + digits + (if (rest.drop digits).head?.any isSpace then 1 else 0))
    else if c < 0xC0 then some 2
    else
      let width := if c < 0xE0 then 2 else if c < 0xF0 then 3 else 4
      some (1 + min width (1 + rest.length))
  | _ => none

/-- The length of the run of name bytes and escapes after `skip` bytes that belong to it anyway. -/
def nameRun : Nat → Bytes → Nat
  | _, [] => 0
  | skip + 1, _ :: s => 1 + nameRun skip s
  | 0, b :: s =>
    if isName b then 1 + nameRun 0 s
    else match escape? (b :: s) with
      | some n => 1 + nameRun (n - 1) s
      | none => 0

/-- The length of a name that starts with a letter, an underscore, a byte beyond ASCII or an
escape. -/
def plainIdent? : Bytes → Option Nat
  | [] => none
  | b :: s =>
    if isNameStart b then some (1 + nameRun 0 s)
    else (escape? (b :: s)).map fun n => nameRun n (b :: s)

/-- The length of the identifier at the start of the text: two hyphens and any name bytes, or a name
with an optional hyphen before it. -/
def ident? : Bytes → Option Nat
  | 0x2D :: 0x2D :: s => some (2 + nameRun 0 s)
  | 0x2D :: s => (plainIdent? s).map (1 + ·)
  | s => plainIdent? s

/-- The number of digits at the start of the text. -/
def digitRun (s : Bytes) : Nat := (s.takeWhile isDigit).length

/-- The length of an exponent, `0` if there is none. -/
def exponent (s : Bytes) : Nat :=
  match s with
  | e :: rest =>
    if e == 0x65 || e == 0x45 then
      let sign := if rest.head?.any (fun b => b == 0x2B || b == 0x2D) then 1 else 0
      let digits := digitRun (rest.drop sign)
      if digits = 0 then 0 else 1 + sign + digits
    else 0
  | [] => 0

/-- The length of the number at the start of the text. A point belongs to it only with a digit
behind it, and an exponent is not looked for behind any other point. -/
def number? (s : Bytes) : Option Nat :=
  let sign := if s.head?.any (fun b => b == 0x2B || b == 0x2D) then 1 else 0
  let afterSign := s.drop sign
  let whole := digitRun afterSign
  let afterWhole := afterSign.drop whole
  if afterWhole.head? == some 0x2E then
    let fraction := digitRun (afterWhole.drop 1)
    if fraction = 0 then (if whole = 0 then none else some (sign + whole))
    else
      let length := sign + whole + 1 + fraction
      some (length + exponent (s.drop length))
  else if whole = 0 then none
  else some (sign + whole + exponent afterWhole)

/-- The length of a number with its unit or percent sign. -/
def numeric? (s : Bytes) : Option Nat :=
  (number? s).map fun n =>
    let rest := s.drop n
    if rest.head? == some 0x25 then n + 1
    else match ident? rest with
      | some m => n + m
      | none => n

/-! ## Strings and addresses -/

/-- The length of a newline that follows a backslash, a carriage return and line feed being one. -/
def newlineLength : Bytes → Nat
  | 0x0D :: 0x0A :: _ => 2
  | b :: _ => if isNewline b then 1 else 0
  | [] => 0

/-- The length of a string behind its opening quote, and whether a newline broke it off. -/
def stringRun (mark : UInt8) : Nat → Bytes → Nat × Bool
  | _, [] => (0, false)
  | skip + 1, _ :: s =>
    let (n, bad) := stringRun mark skip s
    (n + 1, bad)
  | 0, b :: s =>
    if isNewline b then (1, true)
    else if b == mark then (1, false)
    else
      let skip :=
        if b != backslash then 0
        else match escape? (b :: s) with
          | some n => n - 1
          | none => newlineLength s
      let (n, bad) := stringRun mark skip s
      (n + 1, bad)

/-- Whether a byte cannot stand in an address without quotes, unless it starts an escape. -/
def breaksUrl (b : UInt8) : Bool :=
  b == 0x22 || b == 0x27 || b == 0x28 || b == backslash || b ≤ 0x20 || b == 0x7F

/-- The length of an address without quotes, and whether it ends at a parenthesis or with the
text. -/
def urlRun : Nat → Bytes → Nat × Bool
  | _, [] => (0, true)
  | skip + 1, _ :: s =>
    let (n, good) := urlRun skip s
    (n + 1, good)
  | 0, b :: s =>
    if b == 0x29 then (0, true)
    else if breaksUrl b then
      match escape? (b :: s) with
      | some n =>
        let (m, good) := urlRun (n - 1) s
        (m + 1, good)
      | none => (0, false)
    else
      let (n, good) := urlRun 0 s
      (n + 1, good)

/-- The number of bytes through the next parenthesis that is not escaped, or to the end. -/
def badUrlRun : Nat → Bytes → Nat
  | _, [] => 0
  | skip + 1, _ :: s => 1 + badUrlRun skip s
  | 0, b :: s =>
    if b == 0x29 then 1
    else match escape? (b :: s) with
      | some n => 1 + badUrlRun (n - 1) s
      | none => 1 + badUrlRun 0 s

/-- The number of white space bytes at the start of the text. -/
def spaceRun (s : Bytes) : Nat := (s.takeWhile isSpace).length

/-- The address behind `url(`: its length up to and including the closing parenthesis, and whether
it is well formed. -/
def address (s : Bytes) : TokenKind × Nat :=
  let start := spaceRun s
  let inside := s.drop start
  let bad := fun n : Nat => (TokenKind.badUrl, n + badUrlRun 0 (s.drop n))
  let close := fun n : Nat =>
    let n := n + spaceRun (s.drop n)
    match s.drop n with
    | [] => (TokenKind.url, n)
    | b :: _ => if b == 0x29 then (TokenKind.url, n + 1) else bad n
  match inside with
  | [] => close start
  | mark :: quoted =>
    if mark == 0x22 || mark == 0x27 then
      let (n, broken) := stringRun mark 0 quoted
      if broken then bad (start + 1 + n) else close (start + 1 + n)
    else
      let (n, good) := urlRun 0 inside
      if good || (s.drop (start + n)).head?.any isSpace then close (start + n)
      else bad (start + n)

/-- An identifier, a function name with its parenthesis, or an address. -/
def identLike? (s : Bytes) : Option (TokenKind × Nat) :=
  (ident? s).map fun n =>
    match s.drop n with
    | b :: rest =>
      if b != 0x28 then (.ident, n)
      else if Bytes.lowerAscii ((s.take n).filter (· != backslash)) == "url" then
        let (kind, m) := address rest
        (kind, n + 1 + m)
      else (.function, n + 1)
    | [] => (.ident, n)

/-- The length of a range of code points such as `U+26` or `u+4??`. -/
def unicodeRange? (s : Bytes) : Option Nat :=
  match s with
  | _ :: plus :: rest =>
    if plus != 0x2B then none
    else
      let digits := (rest.takeWhile isHex).length
      let within := fun k : Nat => 1 ≤ k && k ≤ 6
      match rest.drop digits with
      | b :: more =>
        if b == 0x2D then
          let last := (more.takeWhile isHex).length
          if within digits && within last then some (2 + digits + 1 + last) else none
        else
          let marks := ((b :: more).takeWhile (· == 0x3F)).length
          if within (digits + marks) then some (2 + digits + marks) else none
      | [] => if within digits then some (2 + digits) else none
  | _ => none

/-- The number of bytes through the end of a comment, behind its opening. -/
def commentRun : Bytes → Nat
  | [] => 0
  | b :: s => if b == 0x2A && s.head? == some 0x2F then 2 else 1 + commentRun s

/-! ## Tokens -/

/-- A recogniser's answer, or else the single byte as a delimiter. -/
def orDelim (found : Option (TokenKind × Nat)) : TokenKind × Nat := found.getD (.delim, 1)

/-- The class and the length of the token at the start of `b :: s`. -/
def tokenAt (b : UInt8) (s : Bytes) : TokenKind × Nat :=
  let all := b :: s
  let numeric := (numeric? all).map fun n => (TokenKind.number, n)
  let matcher := if s.head? == some 0x3D then some (TokenKind.matcher, 2) else none
  if isSpace b then (.whitespace, 1 + spaceRun s)
  else match Char.ofNat b.toNat with
    | ':' => (.colon, 1)
    | ';' => (.semicolon, 1)
    | ',' => (.comma, 1)
    | '(' => (.leftParen, 1)
    | ')' => (.rightParen, 1)
    | '[' => (.leftBracket, 1)
    | ']' => (.rightBracket, 1)
    | '{' => (.leftBrace, 1)
    | '}' => (.rightBrace, 1)
    | '#' =>
      let n := nameRun 0 s
      if n = 0 then (.delim, 1) else (.hash, 1 + n)
    | '"' | '\'' =>
      let (n, broken) := stringRun b 0 s
      (if broken then .badString else .string, 1 + n)
    | '.' | '+' => orDelim numeric
    | '-' =>
      if Bytes.ofString "->" |>.isPrefixOf s then (.commentClose, 3)
      else if s.head? == some 0x2D then (.customName, 2 + nameRun 0 (s.drop 1))
      else orDelim ((identLike? all).orElse fun _ => numeric)
    | '@' => orDelim ((ident? s).map fun n => (.atKeyword, 1 + n))
    | '$' | '*' | '^' | '~' => orDelim matcher
    | '|' => if s.head? == some 0x7C then (.matcher, 2) else orDelim matcher
    | '/' => if s.head? == some 0x2A then (.comment, 2 + commentRun (s.drop 1)) else (.delim, 1)
    | '<' => if Bytes.ofString "!--" |>.isPrefixOf s then (.commentOpen, 4) else (.delim, 1)
    | 'u' | 'U' =>
      match unicodeRange? all with
      | some n => (.unicodeRange, n)
      | none => orDelim (identLike? all)
    | _ => orDelim (numeric.orElse fun _ => identLike? all)

/-- The tokens of a text, after `skip` bytes that belong to the token before. -/
def tokensFrom : Nat → Bytes → List Token
  | _, [] => []
  | skip + 1, _ :: s => tokensFrom skip s
  | 0, b :: s =>
    let (kind, n) := tokenAt b s
    ⟨kind, b :: s.take (n - 1)⟩ :: tokensFrom (n - 1) s

/-- The tokens of a style sheet. -/
def tokens (s : Bytes) : List Token := tokensFrom 0 s

end VarLint.Stylesheet
