import VarLint.Text.Rune

/-!
# Blanks

The characters with the Unicode property White_Space, and what is cut along them: trimmed text and
the fields between runs of blanks.
-/

namespace VarLint

/-- Whether a character has the property White_Space. -/
def isBlank (c : Char) : Bool :=
  let n := c.toNat
  (0x09 ≤ n && n ≤ 0x0D) || n == 0x20 || n == 0x85 || n == 0xA0 || n == 0x1680
    || (0x2000 ≤ n && n ≤ 0x200A) || n == 0x2028 || n == 0x2029 || n == 0x202F || n == 0x205F
    || n == 0x3000

namespace Bytes

/-- The text without the blanks at both its ends. -/
def trim (s : Bytes) : Bytes :=
  let blank := fun r : Rune => isBlank r.char
  ofRunes ((s.runes.dropWhile blank).reverse.dropWhile blank).reverse

/-- The maximal runs of elements that do not satisfy `p`. -/
def runsBetween {α : Type} (p : α → Bool) : List α → List (List α)
  | [] => []
  | x :: xs =>
    if p x then runsBetween p xs
    else match xs with
      | [] => [[x]]
      | y :: _ =>
        if p y then [x] :: runsBetween p xs
        else match runsBetween p xs with
          | [] => [[x]]
          | run :: runs => (x :: run) :: runs

/-- The maximal pieces of the text that hold no blank. -/
def fields (s : Bytes) : List Bytes :=
  (runsBetween (fun r : Rune => isBlank r.char) s.runes).map ofRunes

end Bytes

end VarLint
