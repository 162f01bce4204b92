import VarLint.Yaml.Cursor

/-!
# Scalars

The text of plain, quoted and block scalars. A line break between two words of a plain or quoted
scalar counts as a space, and an empty line as a line break.
-/

namespace VarLint.Yaml

/-! ## Gaps -/

/-- What stands between two words: spacing, or a first line break and more of them. -/
structure Gap where
  spacing : List Char := []
  first : List Char := []
  more : List Char := []
  broken : Bool := false

/-- What a gap counts for in a value. -/
def Gap.text (g : Gap) : List Char :=
  if !g.broken then g.spacing
  else if g.first == ['\n'] then (if g.more.isEmpty then [' '] else g.more)
  else g.first ++ g.more

/-- Reads spacing and line breaks. A tab at the start of a line is an error left of the column
`limit`. -/
def Gap.read (limit : Nat) : Nat → Gap → Cursor → Option (Gap × Cursor)
  | 0, g, c => some (g, c)
  | fuel + 1, g, c =>
    match c.rest.head? with
    | none => some (g, c)
    | some char =>
      if isSpacing char then
        if !g.broken then read limit fuel { g with spacing := g.spacing ++ [char] } (c.skip 1)
        else if char == '\t' && c.column < limit then none
        else read limit fuel g (c.skip 1)
      else if isBreak char then
        let (text, next) := c.takeBreak
        if g.broken then read limit fuel { g with more := g.more ++ text } next
        else read limit fuel { g with spacing := [], first := text, broken := true } next
      else some (g, c)

/-- The number of steps that are enough to read on from a place. -/
def Cursor.steps (c : Cursor) : Nat := c.rest.length + 1

/-! ## Plain scalars -/

/-- The characters that structure a collection in brackets. -/
def isFlowIndicator (c : Char) : Bool :=
  c == ',' || c == '?' || c == '[' || c == ']' || c == Char.ofNat 0x7B || c == Char.ofNat 0x7D

/-- The longest word of a plain scalar at the start of a text. A colon before a gap ends it, and so
does, between brackets, a character that structures them. -/
def plainWord (flow : Bool) : List Char → List Char
  | [] => []
  | c :: cs =>
    if isSpacing c || isBreak c then []
    else if c == ':' && cs.head?.all (fun d => isSpacing d || isBreak d) then []
    else if flow && isFlowIndicator c then []
    else c :: plainWord flow cs

/-- A scalar that was read: its text, and whether a line break was read after it. -/
structure ScalarText where
  text : List Char
  broken : Bool
  next : Cursor

/-- Reads a plain scalar whose lines after the first start at the column `limit` or right of it. -/
def plain.go (flow : Bool) (limit : Nat) : Nat → List Char → Gap → Cursor → Option ScalarText
  | 0, _, _, _ => none
  | fuel + 1, text, gap, c =>
    if c.atDocumentMark || c.sees 0 '#' then some ⟨text, gap.broken, c⟩
    else
      let word := plainWord flow c.rest
      let next := c.skip word.length
      let text := if word.isEmpty then text else text ++ gap.text ++ word
      let gap := if word.isEmpty then gap else {}
      if next.atEnd || !next.gapAt 0 then some ⟨text, gap.broken, next⟩
      else match Gap.read limit next.steps gap next with
        | none => none
        | some (gap, next) =>
          if !flow && next.column < limit then some ⟨text, gap.broken, next⟩
          else go flow limit fuel text gap next

@[inherit_doc plain.go]
def plain (flow : Bool) (limit : Nat) (c : Cursor) : Option ScalarText :=
  plain.go flow limit c.steps [] {} c

/-! ## Quoted scalars -/

/-- The value of a hexadecimal digit. -/
def hexValue? (c : Char) : Option Nat :=
  if '0' ≤ c && c ≤ '9' then some (c.toNat - 48)
  else if 'a' ≤ c && c ≤ 'f' then some (c.toNat - 87)
  else if 'A' ≤ c && c ≤ 'F' then some (c.toNat - 55)
  else none

/-- The value of hexadecimal digits. -/
def hexNumber? (digits : List Char) : Option Nat :=
  digits.foldl (fun n c => do return (← n) * 16 + (← hexValue? c)) (some 0)

/-- What a character after a backslash stands for. -/
def simpleEscape? (c : Char) : Option Char :=
  match c with
  | '0' => some (Char.ofNat 0x00)
  | 'a' => some (Char.ofNat 0x07)
  | 'b' => some (Char.ofNat 0x08)
  | 't' | '\t' => some '\t'
  | 'n' => some '\n'
  | 'v' => some (Char.ofNat 0x0B)
  | 'f' => some (Char.ofNat 0x0C)
  | 'r' => some '\r'
  | 'e' => some (Char.ofNat 0x1B)
  | ' ' | '/' => some c
  | 'N' => some (Char.ofNat 0x85)
  | '_' => some (Char.ofNat 0xA0)
  | 'L' => some (Char.ofNat 0x2028)
  | 'P' => some (Char.ofNat 0x2029)
  | _ => if c.toNat == 0x22 || c.toNat == 0x27 || c.toNat == 0x5C then some c else none

/-- How many hexadecimal digits follow an escaped character. -/
def escapeWidth? (c : Char) : Option Nat :=
  match c with
  | 'x' => some 2
  | 'u' => some 4
  | 'U' => some 8
  | _ => none

/-- The character of an escape sequence, of which `c` stands after the backslash, and its length. -/
def escape? (c : Char) (rest : List Char) : Option (Char × Nat) :=
  match escapeWidth? c with
  | none => (simpleEscape? c).map fun char => (char, 2)
  | some width =>
    let digits := rest.take width
    if digits.length < width then none
    else match hexNumber? digits with
      | some n =>
        if (0xD800 ≤ n && n ≤ 0xDFFF) || 0x10FFFF < n then none
        else some (Char.ofNat n, width + 2)
      | none => none

/-- The two kinds of quotes. -/
inductive Quote where
  | single
  | double
  deriving DecidableEq, Repr

/-- The character of a quote. -/
def Quote.char : Quote → Char
  | single => Char.ofNat 0x27
  | double => Char.ofNat 0x22

/-- The backslash. -/
def backslash : Char := Char.ofNat 0x5C

/-- Reads the characters up to the next gap or the closing quote. The answer holds them, whether an
escaped line break ended them, and what follows. -/
def quotedWord (q : Quote) : Nat → List Char → Cursor → Option (List Char × Bool × Cursor)
  | 0, _, _ => none
  | fuel + 1, text, c =>
    match c.rest with
    | [] => some (text, false, c)
    | char :: rest =>
      if isSpacing char || isBreak char then some (text, false, c)
      else if char == q.char then
        if q = .single && rest.head? == some q.char then
          quotedWord q fuel (text ++ [char]) (c.skip 2)
        else some (text, false, c)
      else if q = .double && char == backslash then
        match rest with
        | [] => none
        | escaped :: more =>
          if isBreak escaped then some (text, true, (c.skip 1).skipBreak)
          else match escape? escaped more with
            | none => none
            | some (char, n) => quotedWord q fuel (text ++ [char]) (c.skip n)
      else quotedWord q fuel (text ++ [char]) (c.skip 1)

/-- Reads a quoted scalar from the character after its first quote on. -/
def quoted.go (q : Quote) : Nat → List Char → Cursor → Option ScalarText
  | 0, _, _ => none
  | fuel + 1, text, c =>
    if c.atDocumentMark || c.atEnd then none
    else match quotedWord q c.steps [] c with
      | none => none
      | some (word, escaped, next) =>
        let text := text ++ word
        if next.sees 0 q.char then some ⟨text, false, next.skip 1⟩
        else match Gap.read 0 next.steps { broken := escaped } next with
          | none => none
          | some (gap, next) => go q fuel (text ++ gap.text) next

@[inherit_doc quoted.go]
def quoted (q : Quote) (c : Cursor) : Option ScalarText := quoted.go q (2 * c.steps) [] (c.skip 1)

/-! ## Block scalars -/

/-- What happens to the line breaks at the end of a block scalar. -/
inductive Chomping where
  | strip
  | clip
  | keep
  deriving DecidableEq, Repr

/-- The chomping mark that stands here. -/
def chompingMark? (c : Cursor) : Option Chomping :=
  if c.sees 0 '+' then some .keep else if c.sees 0 '-' then some .strip else none

/-- The indentation mark that stands here; a zero is an error. -/
def indentationMark? (c : Cursor) : Option (Nat × Cursor) :=
  match c.rest.head? with
  | some char =>
    if char == '0' then none
    else if char.isDigit then some (char.toNat - 48, c.skip 1)
    else some (0, c)
  | none => some (0, c)

/-- The marks after the character that starts a block scalar, in either order: how its end is
chomped and how far it is indented, with zero for as far as its first line is. -/
def blockMarks? (c : Cursor) : Option (Chomping × Nat × Cursor) :=
  match chompingMark? c with
  | some chomping => (indentationMark? (c.skip 1)).map fun (n, c) => (chomping, n, c)
  | none =>
    (indentationMark? c).map fun (n, next) =>
      match chompingMark? next with
      | some chomping => if n = 0 then (.clip, n, next) else (chomping, n, next.skip 1)
      | none => (.clip, n, next)

/-- Reads indentation and empty lines. The answer holds the line breaks, the largest indentation
seen, and what follows; a tab in the place of indentation is an error. -/
def blockBreaks (indent : Nat) : Nat → List Char → Nat → Cursor → Option (List Char × Nat × Cursor)
  | 0, breaks, widest, c => some (breaks, widest, c)
  | fuel + 1, breaks, widest, c =>
    let spaces := (c.rest.takeWhile (· == ' ')).length
    let next := c.skip (if indent = 0 then spaces else min spaces (indent - c.column))
    let widest := max widest next.column
    if (indent = 0 || next.column < indent) && next.sees 0 '\t' then none
    else if next.holds isBreak then
      let (text, next) := next.takeBreak
      blockBreaks indent fuel (breaks ++ text) widest next
    else some (breaks, widest, next)

/-- The state in a block scalar: its text, the last line break, further ones, and whether the last
line began with spacing. -/
structure BlockText where
  text : List Char := []
  last : List Char := []
  more : List Char := []
  spaced : Bool := false

/-- Reads the lines of a block scalar that are indented by `indent`. -/
def blockLines (literal : Bool) (indent : Nat) :
    Nat → BlockText → Cursor → Option (BlockText × Cursor)
  | 0, b, c => some (b, c)
  | fuel + 1, b, c =>
    if c.column != indent || c.atEnd then some (b, c)
    else
      let spaced := c.holds isSpacing
      let folds := !literal && !b.spaced && !spaced && b.last == ['\n']
      let lead := if folds then (if b.more.isEmpty then [' '] else []) else b.last
      let (line, next) := c.takeWhile fun char => !isBreak char
      let (last, next) := next.takeBreak
      match blockBreaks indent next.steps [] 0 next with
      | none => none
      | some (more, _, next) =>
        blockLines literal indent fuel ⟨b.text ++ lead ++ b.more ++ line, last, more, spaced⟩ next

/-- Reads a block scalar inside a collection indented by `outer` columns, or by none at all. -/
def block (literal : Bool) (outer : Option Nat) (c : Cursor) : Option ScalarText := do
  let (chomping, increment, c) ← blockMarks? (c.skip 1)
  let c := c.skipWhile isSpacing
  let c := if c.sees 0 '#' then c.skipWhile fun char => !isBreak char else c
  if !c.atLineEnd then none
  let c := c.skipBreak
  let given := if increment = 0 then 0 else outer.getD 0 + increment
  let (breaks, widest, c) ← blockBreaks given c.steps [] 0 c
  let least := match outer with
    | some n => n + 1
    | none => 1
  let indent := if given = 0 then max widest least else given
  let (b, c) ← blockLines literal indent c.steps { more := breaks } c
  let ending := match chomping with
    | .strip => []
    | .clip => b.last
    | .keep => b.last ++ b.more
  return ⟨b.text ++ ending, false, c⟩

end VarLint.Yaml
