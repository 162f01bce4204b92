import VarLint.Yaml.Scalar

/-!
# Tokens

The tokens of a document. Indentation becomes tokens too: a collection in block style starts where
the column grows and ends where it falls. A key without a question mark is known as one only when
its colon is read; its token is then put before the place where the key began.
-/

namespace VarLint.Yaml

/-- The tokens. -/
inductive Token where
  | version (major minor : List Char)
  | tagDirective (handle start : List Char)
  | documentStart
  | documentEnd
  | streamEnd
  | blockSequenceStart
  | blockMappingStart
  | blockEnd
  | flowSequenceStart
  | flowSequenceEnd
  | flowMappingStart
  | flowMappingEnd
  | blockEntry
  | flowEntry
  | key
  | value
  | alias (name : List Char)
  | anchor (name : List Char)
  | tag (handle suffix : List Char)
  | scalar (text : List Char) (isPlain : Bool)
  deriving DecidableEq, Repr

/-- A place where a key may have begun: how many tokens come before it, and whether a key has to
stand there. -/
structure PossibleKey where
  position : Nat
  required : Bool
  index : Nat
  line : Nat
  column : Nat

/-- The state of reading tokens. -/
structure Scanner where
  cursor : Cursor
  /-- The tokens read so far, the last one first. -/
  tokens : List Token := []
  /-- The columns of the open block collections, the innermost first. -/
  indents : List Nat := []
  /-- Whether a key can begin here. -/
  keyAllowed : Bool := true
  /-- The key that may have begun in the block context, and in the open brackets, the innermost
  first. -/
  blockKey : Option PossibleKey := none
  flowKeys : List (Option PossibleKey) := []

namespace Scanner

/-- Whether the scanner is between brackets. -/
def inFlow (s : Scanner) : Bool := !s.flowKeys.isEmpty

/-- Adds a token. -/
def emit (s : Scanner) (t : Token) : Scanner := { s with tokens := t :: s.tokens }

/-- Moves on to a place. -/
def goTo (s : Scanner) (c : Cursor) : Scanner := { s with cursor := c }

/-- Adds a token of `n` characters. -/
def take (s : Scanner) (n : Nat) (t : Token) : Scanner := (s.goTo (s.cursor.skip n)).emit t

/-- Sets whether a key can begin. -/
def allowKey (s : Scanner) (b : Bool) : Scanner := { s with keyAllowed := b }

/-! ## Indentation -/

/-- Ends the innermost block collections as long as their columns satisfy `ended`. -/
def unrollWhile (s : Scanner) (ended : Nat → Bool) : Scanner :=
  if s.inFlow then s
  else
    let left := s.indents.dropWhile ended
    { s with
      indents := left
      tokens := List.replicate (s.indents.length - left.length) .blockEnd ++ s.tokens }

/-- Ends the block collections that are indented by more than a column. -/
def unroll (s : Scanner) (column : Nat) : Scanner := s.unrollWhile fun i => column < i

/-- Ends all block collections. -/
def unrollAll (s : Scanner) : Scanner := s.unrollWhile fun _ => true

/-- Whether a column is right of the innermost block collection. -/
def isDeeper (s : Scanner) (column : Nat) : Bool := s.indents.head?.all (· < column)

/-- Puts tokens before the last ones, so that `position` tokens come before them. -/
def insertAt (s : Scanner) (position : Nat) (ts : List Token) : Scanner :=
  let after := s.tokens.length - position
  { s with tokens := s.tokens.take after ++ ts.reverse ++ s.tokens.drop after }

/-- Starts a block collection at a column if it is right of the open ones. -/
def roll (s : Scanner) (column position : Nat) (t : Token) : Scanner :=
  if !s.inFlow && s.isDeeper column then
    { s.insertAt position [t] with indents := column :: s.indents }
  else s

/-! ## Possible keys -/

/-- The key that may have begun in the present context. -/
def possibleKey? (s : Scanner) : Option PossibleKey :=
  match s.flowKeys with
  | [] => s.blockKey
  | k :: _ => k

/-- Sets the key that may have begun in the present context. -/
def setKey (s : Scanner) (k : Option PossibleKey) : Scanner :=
  match s.flowKeys with
  | [] => { s with blockKey := k }
  | _ :: outer => { s with flowKeys := k :: outer }

/-- Gives up the possible key; it is an error if a key has to stand there. -/
def dropKey (s : Scanner) : Option Scanner :=
  match s.possibleKey? with
  | some k => if k.required then none else some (s.setKey none)
  | none => some s

/-- Notes that a key may begin here. -/
def noteKey (s : Scanner) : Option Scanner :=
  if !s.keyAllowed then some s
  else
    let c := s.cursor
    let required := !s.inFlow && s.indents.head? == some c.column
    s.dropKey.map fun s => s.setKey (some ⟨s.tokens.length, required, c.index, c.line, c.column⟩)

/-- How many characters after its beginning the colon of a key can stand at most. -/
def keyLimit : Nat := 1024

/-- Whether a colon here could still end the key: it stands in the same line and not too far on. -/
def isFresh (s : Scanner) (k : PossibleKey) : Bool :=
  k.line == s.cursor.line && s.cursor.index ≤ k.index + keyLimit

/-! ## Tokens -/

/-- Skips spacing, comments and line breaks. A tab counts as spacing only where no key can begin. -/
def skipGap : Nat → Scanner → Scanner
  | 0, s => s
  | fuel + 1, s =>
    let mark := Char.ofNat 0xFEFF
    let c := if s.cursor.column == 0 && s.cursor.sees 0 mark then s.cursor.skip 1 else s.cursor
    let tabs := s.inFlow || !s.keyAllowed
    let c := c.skipWhile fun char => char == ' ' || (tabs && char == '\t')
    let c := if c.sees 0 '#' then c.skipWhile fun char => !isBreak char else c
    if c.holds isBreak then
      skipGap fuel { s with cursor := c.skipBreak, keyAllowed := s.keyAllowed || !s.inFlow }
    else s.goTo c

/-- Opens brackets. -/
def openFlow (s : Scanner) (t : Token) : Option Scanner :=
  s.noteKey.map fun s => { (s.take 1 t).allowKey true with flowKeys := none :: s.flowKeys }

/-- Closes brackets. -/
def closeFlow (s : Scanner) (t : Token) : Option Scanner :=
  s.dropKey.map fun s => { (s.take 1 t).allowKey false with flowKeys := s.flowKeys.drop 1 }

/-- A comma between brackets. -/
def flowEntry (s : Scanner) : Option Scanner :=
  s.dropKey.map fun s => (s.take 1 .flowEntry).allowKey true

/-- A dash before an item. -/
def blockEntry (s : Scanner) : Option Scanner :=
  if !s.inFlow && !s.keyAllowed then none
  else
    let s := s.roll s.cursor.column s.tokens.length .blockSequenceStart
    s.dropKey.map fun s => (s.take 1 .blockEntry).allowKey true

/-- A question mark before a key. -/
def explicitKey (s : Scanner) : Option Scanner :=
  if !s.inFlow && !s.keyAllowed then none
  else
    let s := s.roll s.cursor.column s.tokens.length .blockMappingStart
    s.dropKey.map fun s => (s.take 1 .key).allowKey (!s.inFlow)

/-- A colon that ends no key of its line. -/
def loneColon (s : Scanner) : Option Scanner :=
  if !s.inFlow && !s.keyAllowed then none
  else
    let s := s.roll s.cursor.column s.tokens.length .blockMappingStart
    some ((s.take 1 .value).allowKey (!s.inFlow))

/-- A colon. If a key may have begun in this line, it was one. -/
def colon (s : Scanner) : Option Scanner :=
  match s.possibleKey? with
  | none => s.loneColon
  | some k =>
    if s.isFresh k then
      let s := s.insertAt k.position [.key]
      let s := s.roll k.column k.position .blockMappingStart
      some (((s.setKey none).take 1 .value).allowKey false)
    else if k.required then none
    else (s.setKey none).loneColon

/-- Whether the name of an anchor can end before a character. -/
def endsAnchor (c : Char) : Bool :=
  c == '?' || c == ':' || c == ',' || c == ']' || c == Char.ofNat 0x7D || c == '%' || c == '@'
    || c == Char.ofNat 0x60

/-- An anchor or a reference to one. -/
def anchor (s : Scanner) (token : List Char → Token) : Option Scanner :=
  s.noteKey.bind fun s =>
    let (name, next) := (s.cursor.skip 1).takeWhile isNameChar
    if name.isEmpty || !(next.gapAt 0 || next.holds endsAnchor) then none
    else some (((s.goTo next).emit (token name)).allowKey false)

/-- Whether a character can stand in a tag. -/
def isTagChar (c : Char) : Bool :=
  isNameChar c || ";/?:@&=+$,.!~*()[]".toList.contains c || c == Char.ofNat 0x27

/-- The characters of a tag that stand here, with hexadecimal escapes decoded. -/
def tagText : Nat → List Char → Cursor → Option (List Char × Cursor)
  | 0, text, c => some (text, c)
  | fuel + 1, text, c =>
    match c.rest with
    | [] => some (text, c)
    | char :: rest =>
      if char == '%' then
        match hexNumber? (rest.take 2), (rest.take 2).length with
        | some n, 2 => if n < 0x80 then tagText fuel (text ++ [Char.ofNat n]) (c.skip 3) else none
        | _, _ => none
      else if isTagChar char then tagText fuel (text ++ [char]) (c.skip 1)
      else some (text, c)

/-- The handle of a tag: an exclamation mark, and perhaps a name between two of them. -/
def tagHandle (c : Cursor) : List Char × Cursor :=
  let (name, next) := (c.skip 1).takeWhile isNameChar
  if next.sees 0 '!' then ('!' :: name ++ ['!'], next.skip 1) else ('!' :: name, next)

/-- The handle and the suffix of a tag. -/
def tagParts (c : Cursor) : Option (List Char × List Char × Cursor) :=
  if c.sees 1 '<' then do
    let (suffix, next) ← tagText c.steps [] (c.skip 2)
    if suffix.isEmpty || !next.sees 0 '>' then none
    return ([], suffix, next.skip 1)
  else
    let (handle, next) := tagHandle c
    if 1 < handle.length && handle.getLast? == some '!' then do
      let (suffix, next) ← tagText c.steps [] next
      if suffix.isEmpty then none
      return (handle, suffix, next)
    else do
      let (suffix, next) ← tagText c.steps (handle.drop 1) next
      return if suffix.isEmpty then ([], ['!'], next) else (['!'], suffix, next)

/-- A tag. -/
def tag (s : Scanner) : Option Scanner :=
  s.noteKey.bind fun s => do
    let (handle, suffix, next) ← tagParts s.cursor
    if !next.gapAt 0 then none
    return ((s.goTo next).emit (.tag handle suffix)).allowKey false

/-- A block scalar. -/
def blockScalar (s : Scanner) (literal : Bool) : Option Scanner :=
  s.dropKey.bind fun s =>
    (block literal s.indents.head? s.cursor).map fun r =>
      ((s.goTo r.next).emit (.scalar r.text false)).allowKey true

/-- A quoted scalar. -/
def quotedScalar (s : Scanner) (q : Quote) : Option Scanner :=
  s.noteKey.bind fun s =>
    (quoted q s.cursor).map fun r => ((s.goTo r.next).emit (.scalar r.text false)).allowKey false

/-- A plain scalar. After a line break in its place a key can begin. -/
def plainScalar (s : Scanner) : Option Scanner :=
  s.noteKey.bind fun s =>
    let limit := match s.indents.head? with
      | some n => n + 1
      | none => 0
    (plain s.inFlow limit s.cursor).map fun r =>
      ((s.goTo r.next).emit (.scalar r.text true)).allowKey r.broken

/-- The arguments of a directive. -/
def directiveToken (name : List Char) (c : Cursor) : Option (Token × Cursor) :=
  let c := c.skipWhile isSpacing
  if name == "YAML".toList then do
    let (major, c) := c.takeWhile Char.isDigit
    if major.isEmpty || !c.sees 0 '.' then none
    let (minor, c) := (c.skip 1).takeWhile Char.isDigit
    if minor.isEmpty then none
    return (.version major minor, c)
  else if name == "TAG".toList then do
    if !c.sees 0 '!' then none
    let (handle, c) := tagHandle c
    if handle != ['!'] && handle.getLast? != some '!' then none
    if !c.holds isSpacing then none
    let (start, c) ← tagText c.steps [] (c.skipWhile isSpacing)
    if start.isEmpty || !c.gapAt 0 then none
    return (.tagDirective handle start, c)
  else none

/-- A directive. -/
def directive (s : Scanner) : Option Scanner :=
  s.unrollAll.dropKey.bind fun s => do
    let (name, c) := (s.cursor.skip 1).takeWhile isNameChar
    if name.isEmpty || !c.gapAt 0 then none
    let (token, c) ← directiveToken name c
    let c := c.skipWhile isSpacing
    let c := if c.sees 0 '#' then c.skipWhile fun char => !isBreak char else c
    if !c.atLineEnd then none
    return ((s.goTo c.skipBreak).emit token).allowKey false

/-- The mark of a document's start or end. -/
def documentMark (s : Scanner) (t : Token) : Option Scanner :=
  s.unrollAll.dropKey.map fun s => (s.take 3 t).allowKey false

/-- The end of the stream. -/
def finish (s : Scanner) : Option Scanner :=
  s.unrollAll.dropKey.map fun s => s.emit .streamEnd

/-- Whether a plain scalar can start with a character. -/
def startsPlain (c : Char) : Bool :=
  !("-?:,[]#&*!|>%@".toList.contains c || c == Char.ofNat 0x7B || c == Char.ofNat 0x7D
    || c == Char.ofNat 0x22 || c == Char.ofNat 0x27 || c == Char.ofNat 0x60
    || isSpacing c || isBreak c)

/-- Reads the token that starts with a character. -/
def tokenAt (s : Scanner) (char : Char) : Option Scanner :=
  let c := s.cursor
  if char == '[' then s.openFlow .flowSequenceStart
  else if char == Char.ofNat 0x7B then s.openFlow .flowMappingStart
  else if char == ']' then s.closeFlow .flowSequenceEnd
  else if char == Char.ofNat 0x7D then s.closeFlow .flowMappingEnd
  else if char == ',' then s.flowEntry
  else if char == '-' && c.gapAt 1 then s.blockEntry
  else if char == '?' && (s.inFlow || c.gapAt 1) then s.explicitKey
  else if char == ':' && (s.inFlow || c.gapAt 1) then s.colon
  else if char == '*' then s.anchor .alias
  else if char == '&' then s.anchor .anchor
  else if char == '!' then s.tag
  else if char == '|' && !s.inFlow then s.blockScalar true
  else if char == '>' && !s.inFlow then s.blockScalar false
  else if char == Quote.single.char then s.quotedScalar .single
  else if char == Quote.double.char then s.quotedScalar .double
  else if startsPlain char || char == '-' || (!s.inFlow && (char == '?' || char == ':')) then
    s.plainScalar
  else none

/-- Reads the next token; `none` if there is none. -/
def step (s : Scanner) : Option Scanner :=
  let s := skipGap s.cursor.steps s
  let s := s.unroll s.cursor.column
  match s.cursor.rest.head? with
  | none => s.finish
  | some char =>
    if s.cursor.column == 0 && char == '%' then s.directive
    else if s.cursor.atMark '-' then s.documentMark .documentStart
    else if s.cursor.atMark '.' then s.documentMark .documentEnd
    else s.tokenAt char

/-- The tokens that are certain although what follows them is malformed. A token is handed out only
together with the two after it, and not while a key may begin at it. -/
def certain (s : Scanner) : List Token :=
  let keys := ((s.blockKey :: s.flowKeys).filterMap id).filter s.isFresh
  let bound := (keys.map PossibleKey.position).foldl min (s.tokens.length - 2)
  s.tokens.reverse.take bound

/-- Reads tokens up to the end of the stream or as far as they are well-formed. -/
def run : Nat → Scanner → List Token
  | 0, s => s.tokens.reverse
  | fuel + 1, s =>
    match s.step with
    | none => s.certain
    | some next =>
      if next.tokens.head? == some .streamEnd then next.tokens.reverse else run fuel next

end Scanner

/-- The tokens of a document. They end with the end of the stream unless it is malformed. -/
def tokens (chars : List Char) : List Token :=
  Scanner.run (chars.length + 2) { cursor := { rest := chars } }

end VarLint.Yaml
