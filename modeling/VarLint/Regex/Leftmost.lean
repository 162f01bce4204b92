import VarLint.Regex.Basic

/-!
# The preferred match at a place

Of the matches that start at one place, the preferred one takes the first alternative that leads to
a match and as many rounds of an iteration as do (as few, for one that is not greedy). It is found
by trying the alternatives in that order.
-/

namespace VarLint

/-- A place in a text: the number of runes before it, the last of them, and those after it. -/
structure Cursor where
  index : Nat
  before : Option Char
  after : List Rune

namespace Regex

/-- `n` rounds of `body`, then `next`. -/
def required {β : Type} (body : Cursor → (Cursor → Option β) → Option β) :
    Nat → Cursor → (Cursor → Option β) → Option β
  | 0, p, next => next p
  | n + 1, p, next => body p fun q => required body n q next

/-- The answer of `first`, or that of `second` if it has none. -/
@[inline] def orElse {β : Type} (first second : Unit → Option β) : Option β :=
  match first () with
  | some b => some b
  | none => second ()

/-- At most `n` rounds of `body`, then `next`. -/
def upTo {β : Type} (body : Cursor → (Cursor → Option β) → Option β) (greedy : Bool) :
    Nat → Cursor → (Cursor → Option β) → Option β
  | 0, p, next => next p
  | n + 1, p, next =>
    let more := fun _ : Unit => body p fun q => upTo body greedy n q next
    if greedy then orElse more fun _ => next p else orElse (fun _ => next p) more

/-- Any number of rounds of `body` that each consume something, then `next`. The runes after the
first place bound the number of rounds. -/
def anyTimes {β : Type} (body : Cursor → (Cursor → Option β) → Option β) (greedy : Bool) :
    List Rune → Cursor → (Cursor → Option β) → Option β
  | [], p, next => next p
  | _ :: bound, p, next =>
    let more := fun _ : Unit =>
      body p fun q => if p.index < q.index then anyTimes body greedy bound q next else none
    if greedy then orElse more fun _ => next p else orElse (fun _ => next p) more

/-- The answer of `next` at the end of the first match, in order of preference, where it has one. -/
def prefer {β : Type} : Regex → Cursor → (Cursor → Option β) → Option β
  | .empty, p, next => next p
  | .char k, p, next =>
    match p.after with
    | [] => none
    | r :: rest => if k.contains r.char then next ⟨p.index + 1, some r.char, rest⟩ else none
  | .assertion a, p, next =>
    if a.holds p.before (p.after.head?.map Rune.char) then next p else none
  | .seq a b, p, next => a.prefer p fun q => b.prefer q next
  | .alt a b, p, next => orElse (fun _ => a.prefer p next) fun _ => b.prefer p next
  | .iterate least none greedy body, p, next =>
    required body.prefer least p fun q => anyTimes body.prefer greedy q.after q next
  | .iterate least (some most) greedy body, p, next =>
    required body.prefer least p fun q => upTo body.prefer greedy (most - least) q next

/-- The number of runes in the preferred match at a place. -/
def lengthAt (r : Regex) (p : Cursor) : Option Nat :=
  (r.prefer p fun q => some q.index).map (· - p.index)

/-- The runes that are left when the preferred matches are deleted from left to right: where a match
takes something it is deleted, and where none does one rune is kept. `skip` runes are still to be
deleted. -/
def deleteFrom (r : Regex) : Nat → Option Char → List Rune → List Rune
  | _, _, [] => []
  | skip + 1, _, x :: xs => deleteFrom r skip (some x.char) xs
  | 0, before, x :: xs =>
    match r.lengthAt ⟨0, before, x :: xs⟩ with
    | some (n + 1) => deleteFrom r n (some x.char) xs
    | _ => x :: deleteFrom r 0 (some x.char) xs

/-- The text without the preferred matches. -/
def deleteAll (r : Regex) (s : Bytes) : Bytes := Bytes.ofRunes (r.deleteFrom 0 none s.runes)

/-- The part of a text before the leftmost match, if there is one. -/
def beforeFirst? (r : Regex) (s : Bytes) : Option Bytes :=
  (go none s.runes).map Bytes.ofRunes
where
  /-- The runes before the leftmost match. -/
  go : Option Char → List Rune → Option (List Rune)
    | before, [] => (r.lengthAt ⟨0, before, []⟩).map fun _ => []
    | before, x :: xs =>
      match r.lengthAt ⟨0, before, x :: xs⟩ with
      | some _ => some []
      | none => (go (some x.char) xs).map (x :: ·)

end Regex

end VarLint
