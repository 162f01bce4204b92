import VarLint.Yaml.Token

/-!
# Documents

The tree of the first document of a stream: scalars, sequences, mappings, and references to nodes
that carry an anchor.
-/

namespace VarLint.Yaml

/-- A node of a document. -/
inductive Tree where
  /-- A scalar with its tag, which is empty if none is written, and whether it is plain. -/
  | scalar (tag text : Bytes) (isPlain : Bool)
  | sequence (items : List Tree)
  | mapping (entries : List (Tree × Tree))
  /-- A reference to an anchor, and the node there. -/
  | alias (name : Bytes) (target : Tree)

/-- The node where nothing is written. -/
def Tree.nothing : Tree := .scalar [] [] true

/-- What is written before a node. -/
structure Properties where
  anchor : Option Bytes := none
  tag : Bytes := []

/-- The state of reading a document: the tokens left, the anchors defined so far, and the handles of
tags. An anchor whose node is still being read has no node yet. -/
structure Reader where
  tokens : List Token
  anchors : List (Bytes × Option Tree) := []
  handles : List (List Char × List Char) :=
    [(['!'], ['!']), (['!', '!'], "tag:yaml.org,2002:".toList)]

namespace Reader

/-- The next token. -/
def peek (r : Reader) : Option Token := r.tokens.head?

/-- Whether a given token is next. -/
def sees (r : Reader) (t : Token) : Bool := r.peek == some t

/-- Whether one of the given tokens is next. -/
def seesAny (r : Reader) (ts : List Token) : Bool := ts.any r.sees

/-- Goes on to the next token. The end of the stream stays. -/
def skip (r : Reader) : Reader :=
  if r.sees .streamEnd then r else { r with tokens := r.tokens.drop 1 }

/-- Defines an anchor. -/
def define (r : Reader) (anchor : Option Bytes) (t : Option Tree) : Reader :=
  match anchor with
  | some name => { r with anchors := (name, t) :: r.anchors }
  | none => r

/-- The full name of a tag. -/
def tagName? (r : Reader) (handle suffix : List Char) : Option Bytes :=
  if handle.isEmpty then some (.ofChars suffix)
  else (r.handles.lookup handle).map fun start => .ofChars (start ++ suffix)

/-- Reads the tag that is next, if one is. -/
def tag (r : Reader) (p : Properties) : Option (Properties × Reader) :=
  match r.peek with
  | some (.tag handle suffix) =>
    (r.tagName? handle suffix).map fun name => ({ p with tag := name }, r.skip)
  | _ => some (p, r)

/-- Reads the anchor that is next, if one is. -/
def anchor (r : Reader) (p : Properties) : Properties × Reader :=
  match r.peek with
  | some (.anchor name) => ({ p with anchor := some (.ofChars name) }, r.skip)
  | _ => (p, r)

/-- Reads what is written before a node, in either order. -/
def properties (r : Reader) : Option (Properties × Reader) :=
  match r.peek with
  | some (.anchor _) =>
    let (p, r) := r.anchor {}
    r.tag p
  | _ => (r.tag {}).map fun (p, r) => r.anchor p

/-- The node that a reference stands for. -/
def target? (r : Reader) (name : Bytes) : Option Tree := (r.anchors.lookup name).join

/-- Where a node stands: in a block collection, in a block mapping, where a sequence need not be
indented, or between brackets. -/
inductive Place where
  | block
  | blockMapping
  | flow
  deriving DecidableEq, Repr

mutual

/-- Reads a node. -/
def node : Nat → Place → Reader → Option (Tree × Reader)
  | 0, _, _ => none
  | fuel + 1, place, r =>
    match r.peek with
    | some (.alias name) =>
      (r.target? (.ofChars name)).map fun t => (.alias (.ofChars name) t, r.skip)
    | _ => do
      let (p, r) ← r.properties
      let r := r.define p.anchor none
      let (t, r) ← content fuel place p r
      return (t, r.define p.anchor (some t))

/-- Reads a node after its anchor and its tag. -/
def content : Nat → Place → Properties → Reader → Option (Tree × Reader)
  | 0, _, _, _ => none
  | fuel + 1, place, p, r =>
    match r.peek with
    | some (.scalar text isPlain) =>
      some (.scalar p.tag (.ofChars text) isPlain, r.skip)
    | some .flowSequenceStart =>
      (flowItems fuel true r.skip).map fun (items, r) => (.sequence items, r)
    | some .flowMappingStart =>
      (flowEntries fuel true r.skip).map fun (entries, r) => (.mapping entries, r)
    | some .blockSequenceStart =>
      if place = .flow then nothing p r
      else (blockItems fuel r.skip).map fun (items, r) => (.sequence items, r)
    | some .blockMappingStart =>
      if place = .flow then nothing p r
      else (blockEntries fuel r.skip).map fun (entries, r) => (.mapping entries, r)
    | some .blockEntry =>
      if place = .blockMapping then
        (indentlessItems fuel r).map fun (items, r) => (.sequence items, r)
      else nothing p r
    | some _ => nothing p r
    | none => none

/-- An anchor or a tag alone is an empty node; without them a node is missing. -/
def nothing (p : Properties) (r : Reader) : Option (Tree × Reader) :=
  if p.anchor.isNone && p.tag.isEmpty then none else some (.scalar p.tag [] true, r)

/-- Reads the items of a block sequence. -/
def blockItems : Nat → Reader → Option (List Tree × Reader)
  | 0, _ => none
  | fuel + 1, r =>
    if r.sees .blockEnd then some ([], r.skip)
    else if !r.sees .blockEntry then none
    else do
      let r := r.skip
      let (item, r) ←
        if r.seesAny [.blockEntry, .blockEnd] then some (Tree.nothing, r) else node fuel .block r
      let (items, r) ← blockItems fuel r
      return (item :: items, r)

/-- Reads the items of a sequence that is indented no further than the mapping around it. -/
def indentlessItems : Nat → Reader → Option (List Tree × Reader)
  | 0, _ => none
  | fuel + 1, r =>
    if !r.sees .blockEntry then some ([], r)
    else do
      let r := r.skip
      let (item, r) ←
        if r.seesAny [.blockEntry, .key, .value, .blockEnd] then some (Tree.nothing, r)
        else node fuel .block r
      let (items, r) ← indentlessItems fuel r
      return (item :: items, r)

/-- Reads the entries of a block mapping. -/
def blockEntries : Nat → Reader → Option (List (Tree × Tree) × Reader)
  | 0, _ => none
  | fuel + 1, r =>
    if r.sees .blockEnd then some ([], r.skip)
    else if !r.sees .key then none
    else do
      let (key, r) ← blockPart fuel r.skip
      let (value, r) ←
        if r.sees .value then blockPart fuel r.skip else some (Tree.nothing, r)
      let (entries, r) ← blockEntries fuel r
      return ((key, value) :: entries, r)

/-- Reads a key or a value of a block mapping, which may be missing. -/
def blockPart : Nat → Reader → Option (Tree × Reader)
  | 0, _ => none
  | fuel + 1, r =>
    if r.seesAny [.key, .value, .blockEnd] then some (Tree.nothing, r)
    else node fuel .blockMapping r

/-- Reads the items of a sequence in brackets. A key among them makes a mapping of one entry. -/
def flowItems : Nat → Bool → Reader → Option (List Tree × Reader)
  | 0, _, _ => none
  | fuel + 1, first, r =>
    if r.sees .flowSequenceEnd then some ([], r.skip)
    else if !first && !r.sees .flowEntry then none
    else
      let r := if first then r else r.skip
      if r.sees .flowSequenceEnd then some ([], r.skip)
      else do
        let (item, r) ← if r.sees .key then flowPair fuel r.skip else node fuel .flow r
        let (items, r) ← flowItems fuel false r
        return (item :: items, r)

/-- Reads the one entry of a mapping that is written as an item. -/
def flowPair : Nat → Reader → Option (Tree × Reader)
  | 0, _ => none
  | fuel + 1, r => do
    let (key, r) ←
      if r.seesAny [.value, .flowEntry, .flowSequenceEnd] then some (Tree.nothing, r.skip)
      else node fuel .flow r
    let (value, r) ←
      if r.sees .value then
        let r := r.skip
        if r.seesAny [.flowEntry, .flowSequenceEnd] then some (Tree.nothing, r)
        else node fuel .flow r
      else some (Tree.nothing, r)
    return (.mapping [(key, value)], r)

/-- Reads the entries of a mapping in braces. -/
def flowEntries : Nat → Bool → Reader → Option (List (Tree × Tree) × Reader)
  | 0, _, _ => none
  | fuel + 1, first, r =>
    if r.sees .flowMappingEnd then some ([], r.skip)
    else if !first && !r.sees .flowEntry then none
    else
      let r := if first then r else r.skip
      if r.sees .flowMappingEnd then some ([], r.skip)
      else do
        let (key, value, r) ←
          if r.sees .key then flowEntry fuel r.skip
          else (node fuel .flow r).map fun (key, r) => (key, Tree.nothing, r)
        let (entries, r) ← flowEntries fuel false r
        return ((key, value) :: entries, r)

/-- Reads a key in braces and its value, each of which may be missing. -/
def flowEntry : Nat → Reader → Option (Tree × Tree × Reader)
  | 0, _ => none
  | fuel + 1, r => do
    let (key, r) ←
      if r.seesAny [.value, .flowEntry, .flowMappingEnd] then some (Tree.nothing, r)
      else node fuel .flow r
    let (value, r) ←
      if r.sees .value then
        let r := r.skip
        if r.seesAny [.flowEntry, .flowMappingEnd] then some (Tree.nothing, r)
        else node fuel .flow r
      else some (Tree.nothing, r)
    return (key, value, r)

end

/-- Reads the directives before a document: at most one for the version, which is 1.1, and each
handle of tags once. -/
def directives : Nat → Bool → List (List Char) → Reader → Option Reader
  | 0, _, _, _ => none
  | fuel + 1, versioned, named, r =>
    match r.peek with
    | some (.version major minor) =>
      if versioned || major != ['1'] || minor != ['1'] then none
      else directives fuel true named r.skip
    | some (.tagDirective handle start) =>
      if named.contains handle then none
      else
        directives fuel versioned (handle :: named)
          { r.skip with handles := (handle, start) :: r.handles }
    | _ => some r

/-- Whether a document ends before the next token. -/
def atDocumentEnd (r : Reader) : Bool :=
  match r.peek with
  | some (.version ..) | some (.tagDirective ..) => true
  | some t => [Token.documentStart, .documentEnd, .streamEnd].contains t
  | none => false

/-- Whether the next token starts a document explicitly. -/
def atDocumentStart (r : Reader) : Bool := r.atDocumentEnd && !r.sees .documentEnd

/-- Reads the first document. The answer is `none` if it is malformed, and holds nothing if the
stream is empty. What follows the document is not looked at. -/
def document (r : Reader) : Option (Option Tree) := do
  let fuel := 4 * r.tokens.length + 4
  if r.sees .streamEnd then return none
  let (t, r) ←
    if r.atDocumentStart then do
      let r ← directives fuel false [] r
      if !r.sees .documentStart then none
      let r := r.skip
      if r.atDocumentEnd then some (Tree.nothing, r) else node fuel .block r
    else node fuel .block r
  if r.peek.isNone then none
  return some t

end Reader

/-- The tree of the first document; the answer is `none` if it is malformed, and holds nothing if
there is no document. -/
def document? (content : Bytes) : Option (Option Tree) := do
  let chars ← documentChars? content
  Reader.document { tokens := tokens chars }

end VarLint.Yaml
