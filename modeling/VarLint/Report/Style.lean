import VarLint.Text.Bytes

/-!
# Terminal styles

Parts of a text report are set off by colour. Without colours the text is left as it is; with
colours its tabs become spaces, and on a terminal that shows them it is put between the escape
sequences of the style.
-/

namespace VarLint.Report

/-- What a terminal can show. -/
inductive Profile where
  | ascii
  | ansi
  deriving DecidableEq, Repr

/-- The styles in use. -/
inductive Style where
  | cyan
  | yellow
  | green
  | gray
  deriving DecidableEq, Repr

/-- The parameters of the escape sequence that starts a style. -/
def Style.parameters : Style → Bytes
  | cyan => "1;36"
  | yellow => "1;33"
  | green => "1;32"
  | gray => "90"

/-- The byte that starts an escape sequence. -/
def escapeByte : UInt8 := 0x1B

/-- Tabs replaced by four spaces each. -/
def expandTabs (s : Bytes) : Bytes :=
  s.flatMap fun b => if b == 0x09 then List.replicate 4 0x20 else [b]

/-- A text in a style; `none` stands for a report without colours. -/
def Style.render (style : Style) (paint : Option Profile) (s : Bytes) : Bytes :=
  match paint with
  | none => s
  | some .ascii => expandTabs s
  | some .ansi =>
    escapeByte :: "[" ++ style.parameters ++ "m" ++ expandTabs s ++ (escapeByte :: "[0m")

end VarLint.Report
