import VarLint.Regex.Basic

/-!
# Testing a text for a match

Whether some part of a text matches an expression is decided without backtracking. A set of places
in the text is a number whose bit `i` stands for the place before character `i`. Each expression
maps the places where a match may start to the places where one may end, and the text has a match
exactly when starting everywhere leaves some end. The work is polynomial in text and expression,
however ambiguous the expression is.
-/

namespace VarLint

/-- A set of places in a text, as the bits of a number. -/
abbrev Places := Nat

namespace Places

/-- The places before the characters that satisfy `p`. -/
def before (p : Char → Bool) : List Char → Places
  | [] => 0
  | c :: cs => (if p c then 1 else 0) + 2 * before p cs

/-- The places where an assertion holds, in a text that continues `previous`. -/
def asserted (a : Assertion) : Option Char → List Char → Places
  | previous, [] => if a.holds previous none then 1 else 0
  | previous, c :: cs =>
    (if a.holds previous (some c) then 1 else 0) + 2 * asserted a (some c) cs

/-- All places of a text of `n` characters, both ends included. -/
def all (n : Nat) : Places := Nat.pow 2 (n + 1) - 1

/-- The places reached from `s` in any number of rounds of `f`, for at most `fuel` rounds that reach
something new. -/
def closure (f : Places → Places) : Nat → Places → Places
  | 0, s => s
  | fuel + 1, s =>
    let t := s ||| f s
    if t = s then s else closure f fuel t

/-- The places reached from `s` in exactly `n` rounds of `f`. -/
def rounds (f : Places → Places) : Nat → Places → Places
  | 0, s => s
  | n + 1, s => rounds f n (f s)

/-- The places reached from `s` in at most `n` rounds of `f`. -/
def upTo (f : Places → Places) : Nat → Places → Places
  | 0, s => s
  | n + 1, s =>
    let t := f s
    if t = 0 then s else s ||| upTo f n t

end Places

/-- An expression laid over a text: each class and each assertion is replaced by the places of the
text where it applies. -/
inductive Overlay where
  | empty
  | consume (places : Places)
  | guard (places : Places)
  | seq (first second : Overlay)
  | alt (first second : Overlay)
  | iterate (least : Nat) (most : Option Nat) (body : Overlay)

/-- Lays an expression over a text. -/
def Regex.over (text : List Char) : Regex → Overlay
  | .empty => .empty
  | .char k => .consume (Places.before k.contains text)
  | .assertion a => .guard (Places.asserted a none text)
  | .seq a b => .seq (a.over text) (b.over text)
  | .alt a b => .alt (a.over text) (b.over text)
  | .iterate least most _ body => .iterate least most (body.over text)

/-- The places where a match may end that starts at one of the given places, in a text of `size`
characters. -/
def Overlay.image (size : Nat) : Overlay → Places → Places
  | .empty, s => s
  | .consume here, s => (s &&& here) <<< 1
  | .guard here, s => s &&& here
  | .seq a b, s => b.image size (a.image size s)
  | .alt a b, s => a.image size s ||| b.image size s
  | .iterate least none body, s =>
    Places.closure (body.image size) (size + 1) (Places.rounds (body.image size) least s)
  | .iterate least (some most) body, s =>
    Places.upTo (body.image size) (most - least) (Places.rounds (body.image size) least s)

/-- Whether some part of the text matches the expression. -/
def Regex.matchesChars (r : Regex) (text : List Char) : Bool :=
  (r.over text).image text.length (Places.all text.length) != 0

/-- Whether some part of the byte string matches the expression. -/
def Regex.test (r : Regex) (s : Bytes) : Bool := r.matchesChars s.chars

end VarLint
