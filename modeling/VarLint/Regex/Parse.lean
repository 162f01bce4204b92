import VarLint.Regex.Error
import VarLint.Regex.Property

/-!
# Reading expressions

The text of an expression is read from left to right over a stack of open groups. Every construct is
recognised at its first character, and the first fault found is the one reported.

* Escapes: `\d \w \s` and their complements, `\b \B \A \z`, `\p{…}`, `\Q…\E`, octal and hexadecimal
  code points, and any punctuation after a backslash for itself.
* Groups: `(…)`, `(?:…)`, `(?P<name>…)`, `(?<name>…)`, and flags `i m s U`, set or cleared for the
  rest of the group or for one group.
* Repetition: `* + ?` and `{n}`, `{n,}`, `{n,m}` up to a thousand rounds, nested ones multiplied; a
  `?` behind turns the preference around.

Bounded are the depth of the tree and the product of nested repeat counts. The limits on the size of
the compiled expression, that is on its instructions (some three millions) and on the code points of
its classes (some thirty millions), are left out: an expression that only they refuse is accepted.
-/

namespace VarLint.Regex

/-- The switches that `(?ims U)` changes. -/
structure Flags where
  foldCase : Bool := false
  multiLine : Bool := false
  dotAll : Bool := false
  ungreedy : Bool := false
  deriving DecidableEq, Repr

/-- What a finished part is, as far as it matters for the depth of what contains it: neighbouring
literals form one node, and a sequence in a sequence or a choice in a choice adds no level. -/
inductive Shape where
  | literal
  | sequence
  | choice
  | other
  deriving DecidableEq, Repr

/-- A finished part of the expression with the depth of its tree and the largest product of repeat
counts along one of its branches. -/
structure Part where
  regex : Regex
  shape : Shape
  height : Nat
  rounds : Nat

namespace Part

/-- A part without parts below it. -/
def leaf (regex : Regex) : Part := ⟨regex, .other, 1, 1⟩

/-- One literal character. -/
def ofChar (flags : Flags) (code : Nat) : Part :=
  ⟨.char (.single flags.foldCase code), .literal, 1, 1⟩

/-- The depth of a node of the given shape over the parts. -/
def heightOver (shape : Shape) (parts : List Part) : Nat :=
  (parts.map fun p => if p.shape = shape then p.height else p.height + 1).foldl max 1

/-- The largest product of repeat counts in one of the parts. -/
def roundsOver (parts : List Part) : Nat := (parts.map Part.rounds).foldl max 1

/-- The parts one after another. -/
def sequence : List Part → Part
  | [] => leaf .empty
  | [p] => p
  | parts =>
    let regex := Regex.sequence (parts.map Part.regex)
    if parts.all (fun p => p.shape = .literal) then ⟨regex, .literal, 1, 1⟩
    else ⟨regex, .sequence, heightOver .sequence parts, roundsOver parts⟩

/-- The first of the parts that matches. -/
def choice : List Part → Part
  | [] => leaf .empty
  | [p] => p
  | parts =>
    ⟨Regex.choice (parts.map Part.regex), .choice, heightOver .choice parts, roundsOver parts⟩

/-- A capturing group around a part. -/
def group (p : Part) : Part := ⟨p.regex, .other, p.height + 1, p.rounds⟩

end Part

/-- A group that is still open: whether it captures, the flags to restore behind it, its finished
alternatives, and the parts of the current one, both lists with the latest first. -/
structure Frame where
  captures : Bool
  flags : Flags
  alternatives : List Part
  parts : List Part

/-- The state of reading: the flags in force, the parts of the innermost group, the groups around
it, and, if a repetition has just been read, the text from its operator on. -/
structure Progress where
  flags : Flags
  alternatives : List Part
  parts : List Part
  outer : List Frame
  lastRepeat : Option (List Rune)

/-- An error over the given runes. -/
def failure {α : Type} (fault : Fault) (part : List Rune) : Except Error α :=
  .error ⟨fault, Bytes.ofRunes part⟩

/-- The runes of `s` that come before its end part `rest`. -/
def consumed (s rest : List Rune) : List Rune := s.take (s.length - rest.length)

/-- The next rune, which has to be well-formed. -/
def nextRune (s : List Rune) : Except Error (Char × List Rune) :=
  match s with
  | [] => .ok (Rune.replacement, [])
  | r :: rest => if r.isMalformed then failure .malformedText s else .ok (r.char, rest)

/-- Fails at the first malformed byte. -/
def checkWellFormed : List Rune → Except Error Unit
  | [] => .ok ()
  | r :: rest => if r.isMalformed then failure .malformedText (r :: rest) else checkWellFormed rest

/-- The runes before the first character `c`, and those after it. -/
def cutAt? (c : Char) : List Rune → Option (List Rune × List Rune)
  | [] => none
  | r :: rest =>
    if r.char == c then some ([], rest)
    else (cutAt? c rest).map fun (before, after) => (r :: before, after)

/-- The characters at the start of a text. -/
def startsWith (s : List Rune) (chars : String) : Bool :=
  chars.toList.isPrefixOf ((s.take chars.length).map Rune.char)

/-- The deepest tree that is accepted. -/
def maxHeight : Nat := 1000

/-- The largest number of rounds, for one repetition and for nested ones together. -/
def maxRounds : Nat := 1000

namespace Progress

/-- Adds a finished part to the innermost group; `whole` is the expression. -/
def push (whole : List Rune) (st : Progress) (p : Part) : Except Error Progress :=
  if p.height > maxHeight then failure .tooDeep whole
  else .ok { st with parts := p :: st.parts, lastRepeat := none }

/-- The content of the innermost group. -/
def content (whole : List Rune) (st : Progress) : Except Error Part :=
  let last := Part.sequence st.parts.reverse
  let all := Part.choice (last :: st.alternatives).reverse
  if last.height > maxHeight || all.height > maxHeight then failure .tooDeep whole else .ok all

/-- Opens a group with the flags that hold inside it. -/
def openGroup (st : Progress) (captures : Bool) (inner : Flags) : Progress :=
  { flags := inner, alternatives := [], parts := [], lastRepeat := none
    outer := ⟨captures, st.flags, st.alternatives, st.parts⟩ :: st.outer }

/-- Closes the innermost group. -/
def closeGroup (whole : List Rune) (st : Progress) : Except Error Progress := do
  let inside ← st.content whole
  match st.outer with
  | [] => failure .unexpectedParen whole
  | frame :: outer =>
    push whole
      { flags := frame.flags, alternatives := frame.alternatives, parts := frame.parts
        outer := outer, lastRepeat := none }
      (if frame.captures then inside.group else inside)

/-- Ends the current alternative of the innermost group. -/
def nextAlternative (whole : List Rune) (st : Progress) : Except Error Progress :=
  let last := Part.sequence st.parts.reverse
  if last.height > maxHeight then failure .tooDeep whole
  else .ok { st with alternatives := last :: st.alternatives, parts := [], lastRepeat := none }

end Progress

/-! ## Escapes -/

/-- The value of a hexadecimal digit. -/
def hexValue? (c : Char) : Option Nat :=
  if '0' ≤ c && c ≤ '9' then some (c.toNat - 0x30)
  else if 'a' ≤ c && c ≤ 'f' then some (c.toNat - 0x57)
  else if 'A' ≤ c && c ≤ 'F' then some (c.toNat - 0x37)
  else none

/-- Whether a character is an octal digit. -/
def isOctal (c : Char) : Bool := '0' ≤ c && c ≤ '7'

/-- Reads at most `n` octal digits behind the value `code`. -/
def octal : Nat → Nat → List Rune → Nat × List Rune
  | n + 1, code, r :: rest =>
    if isOctal r.char then octal n (code * 8 + (r.char.toNat - 0x30)) rest else (code, r :: rest)
  | _, code, s => (code, s)

/-- Reads hexadecimal digits up to a closing brace. `whole` is the escape from its backslash on. -/
def bracedHex (whole : List Rune) (code : Nat) (digits : Nat) :
    List Rune → Except Error (Nat × List Rune)
  | [] => failure .escape whole
  | r :: rest =>
    if r.isMalformed then failure .malformedText (r :: rest)
    else if r.char == '}' then
      if digits = 0 then failure .escape (consumed whole rest) else .ok (code, rest)
    else match hexValue? r.char with
      | none => failure .escape (consumed whole rest)
      | some v =>
        if code * 16 + v > 0x10FFFF then failure .escape (consumed whole rest)
        else bracedHex whole (code * 16 + v) (digits + 1) rest

/-- Reads the escape of one character; `s` starts with a backslash. -/
def escapedChar (s : List Rune) : Except Error (Nat × List Rune) := do
  let afterSlash := s.drop 1
  if afterSlash.isEmpty then failure .trailingBackslash []
  else
    let (c, rest) ← nextRune afterSlash
    let invalid := fun rest : List Rune => failure .escape (consumed s rest)
    match c with
    | '0' => .ok (octal 2 0 rest)
    | 'a' => .ok (0x07, rest)
    | 'f' => .ok (0x0C, rest)
    | 'n' => .ok (0x0A, rest)
    | 'r' => .ok (0x0D, rest)
    | 't' => .ok (0x09, rest)
    | 'v' => .ok (0x0B, rest)
    | 'x' =>
      if rest.isEmpty then invalid rest
      else
        let (h, rest) ← nextRune rest
        if h == '{' then bracedHex s 0 0 rest
        else
          let (l, rest) ← nextRune rest
          match hexValue? h, hexValue? l with
          | some x, some y => .ok (x * 16 + y, rest)
          | _, _ => invalid rest
    | _ =>
      if '1' ≤ c && c ≤ '7' then
        if (rest.head?.map Rune.char).any isOctal then .ok (octal 2 (c.toNat - 0x30) rest)
        else invalid rest
      else if c.toNat < 0x80 && !(isWordChar c && c != '_') then .ok (c.toNat, rest)
      else invalid rest

/-! ## Classes -/

/-- The class escapes `\d`, `\s`, `\w` and their complements. -/
def shorthandItem? (s : List Rune) : Option (ClassItem × List Rune) :=
  match s with
  | b :: r :: rest =>
    if b.char != '\\' then none
    else match r.char with
      | 'd' => some (CharClass.digitItem, rest)
      | 'D' => some ({ CharClass.digitItem with complement := true }, rest)
      | 's' => some (CharClass.spaceItem, rest)
      | 'S' => some ({ CharClass.spaceItem with complement := true }, rest)
      | 'w' => some (CharClass.wordItem, rest)
      | 'W' => some ({ CharClass.wordItem with complement := true }, rest)
      | _ => none
  | _ => none

/-- Reads `\p` or `\P` with a property name, if the text starts with one. -/
def property? (s : List Rune) : Except Error (Option (ClassItem × List Rune)) :=
  match s with
  | b :: p :: afterP =>
    if b.char != '\\' || !(p.char == 'p' || p.char == 'P') then .ok none
    else do
      let (c, rest) ← nextRune afterP
      let (name, rest) ←
        if c != '{' then pure (consumed afterP rest, rest)
        else match cutAt? '}' rest with
          | none => do
            checkWellFormed s
            failure .classRange s
          | some (name, rest) => do
            checkWellFormed name
            pure (name, rest)
      let chars := name.map Rune.char
      let (negated, chars) :=
        match chars with
        | '^' :: chars => (p.char == 'p', chars)
        | _ => (p.char == 'P', chars)
      match propertyItem? chars with
      | none => failure .classRange (consumed s rest)
      | some item => .ok (some ({ item with complement := item.complement != negated }, rest))
  | _ => .ok none

/-- Reads `[:name:]`, if the text starts with one. -/
def namedItem? (s : List Rune) : Except Error (Option (ClassItem × List Rune)) :=
  if !startsWith s "[:" then .ok none
  else match go (s.drop 2) with
    | none => .ok none
    | some (name, rest) =>
      match asciiItem? (name.map Rune.char) with
      | none => failure .classRange (consumed s rest)
      | some item => .ok (some (item, rest))
where
  /-- The runes before the first `:]`, and those after it. -/
  go : List Rune → Option (List Rune × List Rune)
    | [] => none
    | r :: rest =>
      if startsWith (r :: rest) ":]" then some ([], rest.drop 1)
      else (go rest).map fun (name, after) => (r :: name, after)

/-- One character of a class; `whole` is the class from its bracket on. -/
def classChar (whole s : List Rune) : Except Error (Nat × List Rune) :=
  match s with
  | [] => failure .missingBracket whole
  | r :: _ =>
    if r.char == '\\' then escapedChar s
    else (nextRune s).map fun (c, rest) => (c.toNat, rest)

/-- One item of a class. -/
def classItem (whole s : List Rune) : Except Error (ClassItem × List Rune) := do
  match ← namedItem? s with
  | some found => return found
  | none =>
  match ← property? s with
  | some found => return found
  | none =>
  match shorthandItem? s with
  | some found => return found
  | none =>
    let (low, rest) ← classChar whole s
    match rest with
    | d :: e :: _ =>
      if d.char == '-' && e.char != ']' then
        let (high, rest) ← classChar whole (rest.drop 1)
        if high < low then failure .classRange (consumed s rest)
        else return (.interval low high, rest)
      else return (.interval low low, rest)
    | _ => return (.interval low low, rest)

/-- The items of a class up to its closing bracket. Every item takes at least one rune, so `fuel`
need not exceed the length of the text. -/
def classItems (whole : List Rune) :
    Nat → Bool → List Rune → Except Error (List ClassItem × List Rune)
  | 0, _, _ => failure .missingBracket whole
  | fuel + 1, first, s =>
    if !first && (s.head?.map Rune.char) == some ']' then .ok ([], s.drop 1)
    else do
      let (item, rest) ← classItem whole s
      let (items, rest) ← classItems whole fuel false rest
      return (item :: items, rest)

/-- Reads a bracketed class; `s` starts with `[`. -/
def bracketed (flags : Flags) (s : List Rune) : Except Error (CharClass × List Rune) := do
  let inside := s.drop 1
  let negated := (inside.head?.map Rune.char) == some '^'
  let inside := if negated then inside.drop 1 else inside
  let (items, rest) ← classItems s (inside.length + 1) true inside
  return (⟨negated, flags.foldCase, items⟩, rest)

/-! ## Groups and flags -/

/-- Whether a capture name is acceptable: word characters, at least one. -/
def isCaptureName (name : List Rune) : Bool :=
  !name.isEmpty && name.all fun r => isWordChar r.char

/-- Reads flags up to `:` or `)`: the flags, whether a group opens, and the rest. `whole` starts at
the parenthesis, `value` is what a letter sets its flag to, and `seen` tells whether a letter came
since the sign changed. -/
def flagLetters (whole : List Rune) :
    Flags → Bool → Bool → List Rune → Except Error (Flags × Bool × List Rune)
  | _, _, _, [] => failure .groupSyntax whole
  | flags, value, seen, r :: rest =>
    if r.isMalformed then failure .malformedText (r :: rest)
    else match r.char with
      | 'i' => flagLetters whole { flags with foldCase := value } value true rest
      | 'm' => flagLetters whole { flags with multiLine := value } value true rest
      | 's' => flagLetters whole { flags with dotAll := value } value true rest
      | 'U' => flagLetters whole { flags with ungreedy := value } value true rest
      | '-' =>
        if value then flagLetters whole flags false false rest
        else failure .groupSyntax (consumed whole rest)
      | ':' =>
        if !value && !seen then failure .groupSyntax (consumed whole rest)
        else .ok (flags, true, rest)
      | ')' =>
        if !value && !seen then failure .groupSyntax (consumed whole rest)
        else .ok (flags, false, rest)
      | _ => failure .groupSyntax (consumed whole rest)

/-- Opens a named group whose name starts after `skip` runes of `s`. -/
def namedGroup (st : Progress) (s : List Rune) (skip : Nat) :
    Except Error (Progress × List Rune) :=
  match cutAt? '>' s with
  | none => do
    checkWellFormed s
    failure .captureName s
  | some (opening, rest) => do
    let name := opening.drop skip
    checkWellFormed name
    if isCaptureName name then return (st.openGroup true st.flags, rest)
    else failure .captureName (consumed s rest)

/-- Reads what `(?` starts. -/
def extendedGroup (st : Progress) (s : List Rune) : Except Error (Progress × List Rune) :=
  if startsWith s "(?P<" && s.length > 4 then namedGroup st s 4
  else if startsWith s "(?<" && s.length > 3 then namedGroup st s 3
  else do
    let (flags, opens, rest) ← flagLetters s st.flags true false (s.drop 2)
    if opens then return (st.openGroup false flags, rest)
    else return ({ st with flags := flags, lastRepeat := none }, rest)

/-! ## Repetition -/

/-- Reads a number without leading zeros. -/
def repeatNumber? (s : List Rune) : Option (Nat × List Rune) :=
  let digits := s.takeWhile fun r => '0' ≤ r.char && r.char ≤ '9'
  let leadingZero := digits.length > 1 && (digits.head?.map Rune.char) == some '0'
  if digits.isEmpty || leadingZero then none
  else
    some (digits.foldl (fun n r => n * 10 + (r.char.toNat - 0x30)) 0, s.drop digits.length)

/-- Reads `{n}`, `{n,}` or `{n,m}`. -/
def repeatCounts? (s : List Rune) : Option (Nat × Option Nat × List Rune) := do
  let (least, rest) ← repeatNumber? (s.drop 1)
  match rest with
  | r :: more =>
    if r.char == '}' then some (least, some least, more)
    else if r.char != ',' then none
    else match more with
      | c :: afterClose =>
        if c.char == '}' then some (least, none, afterClose)
        else
          let (most, rest) ← repeatNumber? more
          match rest with
          | c :: afterClose => if c.char == '}' then some (least, some most, afterClose) else none
          | [] => none
      | [] => none
  | [] => none

/-- The rounds that a repetition counts for in nested repetitions. -/
def roundsOf (least : Nat) (most : Option Nat) (inner : Nat) : Nat :=
  match most with
  | some 0 => 1
  | some m => m * inner
  | none => if least = 0 then inner else least * inner

/-- Repeats the last part. `s` starts at the operator and `rest` follows it; `counted` tells whether
the operator is written with braces. -/
def repeatLast (whole : List Rune) (st : Progress) (least : Nat) (most : Option Nat)
    (counted : Bool) (s rest : List Rune) : Except Error (Progress × List Rune) :=
  let lazy := (rest.head?.map Rune.char) == some '?'
  let rest := if lazy then rest.drop 1 else rest
  match st.lastRepeat with
  | some earlier => failure .nestedRepeat (consumed earlier rest)
  | none =>
    match st.parts with
    | [] => failure .missingRepeatArgument (consumed s rest)
    | p :: parts =>
      let rounds := if counted then roundsOf least most p.rounds else p.rounds
      let r : Part :=
        ⟨.iterate least most (lazy == st.flags.ungreedy) p.regex, .other, p.height + 1, rounds⟩
      if r.height > maxHeight then failure .tooDeep whole
      else if counted && (least ≥ 2 || most.any (· ≥ 2)) && rounds > maxRounds then
        failure .repeatCount (consumed s rest)
      else .ok ({ st with parts := r :: parts, lastRepeat := some s }, rest)

/-! ## The whole expression -/

/-- Pushes literal characters. -/
def pushLiterals (whole : List Rune) : Progress → List Rune → Except Error Progress
  | st, [] => .ok { st with lastRepeat := none }
  | st, r :: rest =>
    if r.isMalformed then failure .malformedText (r :: rest)
    else do
      let st ← st.push whole (.ofChar st.flags r.char.toNat)
      pushLiterals whole st rest

/-- The runes of a `\Q` passage up to `\E` or the end, and those after it. -/
def cutQuotation : List Rune → List Rune × List Rune
  | [] => ([], [])
  | r :: rest =>
    if startsWith (r :: rest) "\\E" then ([], rest.drop 1)
    else
      let (inside, after) := cutQuotation rest
      (r :: inside, after)

/-- Reads what a backslash starts. -/
def backslash (whole : List Rune) (st : Progress) (s : List Rune) :
    Except Error (Progress × List Rune) := do
  let assertion := fun a => do
    let st ← st.push whole (.leaf (.assertion a))
    return (st, s.drop 2)
  match (s.drop 1).head?.map Rune.char with
  | some 'A' => assertion .textStart
  | some 'b' => assertion .wordBoundary
  | some 'B' => assertion .noWordBoundary
  | some 'z' => assertion .textEnd
  | some 'C' => failure .escape (s.take 2)
  | some 'Q' =>
    let (inside, rest) := cutQuotation (s.drop 2)
    let st ← pushLiterals whole st inside
    return (st, rest)
  | _ =>
    let ofItem := fun (item : ClassItem) rest => do
      let st ← st.push whole (.leaf (.char ⟨false, st.flags.foldCase, [item]⟩))
      return (st, rest)
    match ← property? s with
    | some (item, rest) => ofItem item rest
    | none =>
      match shorthandItem? s with
      | some (item, rest) => ofItem item rest
      | none =>
        let (code, rest) ← escapedChar s
        let st ← st.push whole (.ofChar st.flags code)
        return (st, rest)

/-- Reads one construct at the start of the non-empty text `s`. -/
def step (whole : List Rune) (st : Progress) (r : Rune) (s : List Rune) :
    Except Error (Progress × List Rune) := do
  let rest := s.drop 1
  let leaf := fun regex => do
    let st ← st.push whole (.leaf regex)
    return (st, rest)
  match r.char with
  | '(' =>
    if startsWith s "(?" then extendedGroup st s
    else return (st.openGroup true st.flags, rest)
  | '|' => return (← st.nextAlternative whole, rest)
  | ')' => return (← st.closeGroup whole, rest)
  | '^' => leaf (.assertion (if st.flags.multiLine then .lineStart else .textStart))
  | '$' => leaf (.assertion (if st.flags.multiLine then .lineEnd else .textEnd))
  | '.' => leaf (.char (if st.flags.dotAll then .any else .anyButNewline))
  | '[' =>
    let (k, rest) ← bracketed st.flags s
    let st ← st.push whole (.leaf (.char k))
    return (st, rest)
  | '*' => repeatLast whole st 0 none false s rest
  | '+' => repeatLast whole st 1 none false s rest
  | '?' => repeatLast whole st 0 (some 1) false s rest
  | '{' =>
    match repeatCounts? s with
    | none =>
      let st ← st.push whole (.ofChar st.flags '{'.toNat)
      return (st, rest)
    | some (least, most, rest) =>
      if least > maxRounds || most.any (fun m => m > maxRounds || least > m) then
        failure .repeatCount (consumed s rest)
      else repeatLast whole st least most true s rest
  | '\\' => backslash whole st s
  | _ =>
    let (c, rest) ← nextRune s
    let st ← st.push whole (.ofChar st.flags c.toNat)
    return (st, rest)

/-- Reads the constructs of an expression, first dropping the `skip` runes that belong to the one
just read. -/
def steps (whole : List Rune) : Nat → Progress → List Rune → Except Error Progress
  | _, st, [] => .ok st
  | skip + 1, st, _ :: s => steps whole skip st s
  | 0, st, r :: s => do
    let (st, rest) ← step whole st r (r :: s)
    steps whole (s.length - rest.length) st s

/-- The expression written by a text. -/
def parse (text : Bytes) : Except Error Regex := do
  let whole := text.runes
  let st ← steps whole 0 ⟨{}, [], [], [], none⟩ whole
  let all ← st.content whole
  if st.outer.isEmpty then return all.regex else failure .missingParen whole

end VarLint.Regex
