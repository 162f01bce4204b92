import VarLint.Text.Bytes

/-!
# Glob patterns

How a pattern is taken apart. It is split into a base directory without wildcards and the rest, and
the rest is laid out as a plan: segments below directories, and alternatives in braces. The
rightmost slash or group of a pattern is its outermost part.
-/

namespace VarLint.Glob

/-- The backslash. -/
def backslash : UInt8 := 0x5C

/-- A character with a meaning of its own in patterns. -/
def isMeta (b : UInt8) : Bool := b == 0x2A || b == 0x3F || b == 0x5B || b == 0x7B

/-- Whether a pattern has a wildcard that is not escaped. -/
def hasMeta : Bytes → Bool
  | [] => false
  | [b] => isMeta b
  | b :: c :: s => if b == backslash then hasMeta s else isMeta b || hasMeta (c :: s)

/-- A part without wildcards as a plain path: the backslashes before characters with a meaning are
dropped, and others are kept. -/
def unescape : Bytes → Bytes
  | [] => []
  | [b] => [b]
  | b :: c :: s =>
    if b == backslash && (isMeta c || c == 0x5D || c == 0x7D) then c :: unescape s
    else b :: unescape (c :: s)

/-! ## Well-formedness -/

/-- The rest behind the closing bracket of a class, first dropping an escaped byte if `skip`. -/
def afterClass : Bool → Bytes → Option Bytes
  | _, [] => none
  | true, _ :: s => afterClass false s
  | false, b :: s =>
    if b == backslash then afterClass true s else if b == 0x5D then some s else afterClass false s

/-- Whether classes are closed and not empty, braces balance, and no backslash ends the pattern;
`depth` braces are open. `fuel` need not exceed the length of the pattern. -/
def isValidFrom : Nat → Nat → Bytes → Bool
  | 0, _, s => s.isEmpty
  | _, depth, [] => depth == 0
  | fuel + 1, depth, b :: s =>
    if b == backslash then
      match s with
      | [] => false
      | _ :: s => isValidFrom fuel depth s
    else if b == 0x5B then
      let inside := if s.head?.any (fun c => c == 0x5E || c == 0x21) then s.drop 1 else s
      if inside.isEmpty || inside.head? == some 0x5D then false
      else match afterClass false inside with
        | some rest => isValidFrom fuel depth rest
        | none => false
    else if b == 0x7B then isValidFrom fuel (depth + 1) s
    else if b == 0x7D then depth != 0 && isValidFrom fuel (depth - 1) s
    else isValidFrom fuel depth s

/-- Whether a pattern is well-formed. -/
def isValid (s : Bytes) : Bool := isValidFrom (s.length + 1) 0 s

/-! ## Base and rest -/

/-- The position of the last slash before any wildcard, from position `i` on; `found` is the last
one so far. -/
def lastPlainSlash : Nat → Option Nat → Bytes → Option Nat
  | _, found, [] => found
  | i, found, [b] => if b == 0x2F then some i else found
  | i, found, b :: c :: s =>
    if b == backslash then lastPlainSlash (i + 2) found s
    else if b == 0x2F then lastPlainSlash (i + 1) (some i) (c :: s)
    else if isMeta b then found
    else lastPlainSlash (i + 1) found (c :: s)

/-- The base directory of a pattern and the rest of it. -/
def split (p : Bytes) : Bytes × Bytes :=
  match lastPlainSlash 0 none p with
  | none => (".", p)
  | some 0 => ("/", p.drop 1)
  | some i => (unescape (p.take i), p.drop (i + 1))

/-! ## Plans -/

/-- How a pattern is expanded below a directory: a plain path; the names in a directory that fit a
segment; the same in each directory of another plan; or alternatives, tried in each directory of
another plan if there is one. -/
inductive Plan where
  | plain (path : Bytes)
  | names (segment : Bytes)
  | under (directories : Plan) (segment : Bytes)
  | alternatives (directories : Option Plan) (choices : List Plan)

/-- The bytes of `s` up to its last byte that satisfies `p` and has no backslash before it, that
byte and the bytes after it. -/
def cutLast (p : UInt8 → Bool) (s : Bytes) : Option (Bytes × UInt8 × Bytes) :=
  go [] s.reverse
where
  /-- Walks the reversed bytes; `after` holds those passed. -/
  go (after : Bytes) : Bytes → Option (Bytes × UInt8 × Bytes)
    | [] => none
    | b :: s =>
      if p b && s.head? != some backslash then some (s.reverse, b, after) else go (b :: after) s

/-- The text before the brace that opens the group at whose closing brace `s` ends, and the text
inside; `depth` counts the groups to be opened. -/
def cutOpening (s : Bytes) : Option (Bytes × Bytes) :=
  go 1 [] s.reverse
where
  /-- Walks the reversed bytes; `inside` holds those passed. -/
  go (depth : Nat) (inside : Bytes) : Bytes → Option (Bytes × Bytes)
    | [] => none
    | b :: s =>
      let plain := s.head? != some backslash
      if b == 0x7D && plain then go (depth + 1) (b :: inside) s
      else if b == 0x7B && plain then
        if depth == 1 then some (s.reverse, inside) else go (depth - 1) (b :: inside) s
      else go depth (b :: inside) s

/-- The alternatives of a group: its text cut at the commas outside inner groups. An empty last
alternative is dropped. -/
def choicesOf (inside : Bytes) : List Bytes :=
  go 1 [] inside
where
  /-- Walks the bytes; `current` holds the alternative so far, the latest byte first. -/
  go (depth : Nat) (current : Bytes) : Bytes → List Bytes
    | [] => if current.isEmpty then [] else [current.reverse]
    | [b] =>
      if b == 0x2C && depth == 1 then [current.reverse] else [(b :: current).reverse]
    | b :: c :: s =>
      if b == backslash then go depth (c :: b :: current) s
      else if b == 0x7B then go (depth + 1) (b :: current) (c :: s)
      else if b == 0x7D then go (depth - 1) (b :: current) (c :: s)
      else if b == 0x2C && depth == 1 then current.reverse :: go depth [] (c :: s)
      else go depth (b :: current) (c :: s)

/-- A slash or the end of a group. -/
def isBreak (b : UInt8) : Bool := b == 0x2F || b == 0x7D

/-- The plan of a pattern. Each step leaves a shorter pattern, so `fuel` need not exceed its
length. -/
def planFrom : Nat → Bytes → Plan
  | 0, s => .plain (unescape s)
  | fuel + 1, s =>
    let under := fun (directories segment : Bytes) =>
      if hasMeta directories then Plan.under (planFrom fuel directories) segment
      else .under (.plain (unescape directories)) segment
    if !hasMeta s then .plain (unescape s)
    else match cutLast isBreak s with
      | none => .names s
      | some (before, b, after) =>
        if b == 0x2F then under before after
        else match cutOpening before with
          | none =>
            match cutLast (· == 0x2F) before with
            | none => .names s
            | some (directories, _, start) => under directories (start ++ (b :: after))
          | some (start, inside) =>
            match cutLast isBreak start with
            | some (directories, 0x2F, start) =>
              .alternatives (some (planFrom fuel directories))
                ((choicesOf inside).map fun c => planFrom fuel (start ++ c ++ after))
            | _ =>
              .alternatives none
                ((choicesOf inside).map fun c => planFrom fuel (start ++ c ++ after))

/-- The plan of a pattern. -/
def plan (s : Bytes) : Plan := planFrom (s.length + 1) s

/-- Whether a pattern has two stars in a row that do not end it. -/
def crossesDirectories (s : Bytes) : Bool :=
  go (s.length - 3) s
where
  /-- Looks at the first `n` places. -/
  go : Nat → Bytes → Bool
    | 0, _ => false
    | _, [] => false
    | _, [_] => false
    | n + 1, b :: c :: s =>
      if b == backslash then go (n - 1) s
      else (b == 0x2A && c == 0x2A) || go n (c :: s)

end VarLint.Glob
