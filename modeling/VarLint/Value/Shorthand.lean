import VarLint.Regex.Leftmost
import VarLint.Text.Blank

/-!
# Shorthand values

A border or background shorthand mixes parts that may stay literal (widths, line styles, positions,
repetition, images) with parts that have to come from variables. Normalizing a value deletes the
former.
-/

namespace VarLint.Value

/-- The border shorthands. -/
def borderFamily : List Bytes :=
  ["border", "border-top", "border-right", "border-bottom", "border-left"]

/-- Whether the property is a border shorthand. -/
def isBorder (property : Bytes) : Bool := borderFamily.contains property

/-- Whether the property is the background shorthand. -/
def isBackground (property : Bytes) : Bool := property == "background"

/-- Whether values of the property may be changed by `normalize`. -/
def isShorthand (property : Bytes) : Bool := isBackground property || isBorder property

/-- The line styles of a border. -/
def lineStyles : List String :=
  ["none", "hidden", "dotted", "dashed", "solid", "double", "groove", "ridge", "inset", "outset",
    "initial", "inherit"]

/-- A number with its unit: digits, perhaps one character of any kind, then word characters. -/
def lineWidth : Regex :=
  .seq (.plus .digit) (.seq (.opt (.char .anyButNewline)) (.plus .wordChar))

/-- What is deleted from a border: a width, a line style, or one directly after the other. -/
def borderPart : Regex := .seq (.opt lineWidth) (.opt (.choice (lineStyles.map .literal)))

/-- A position keyword, or a length or percentage. -/
def position : Regex :=
  .choice
    [.literal "top", .literal "left", .literal "center", .literal "bottom", .literal "right",
      .seq (.plus .digit) (.alt (.plus .wordChar) (.literal "%"))]

/-- An image: everything between `url(` and the last parenthesis of the line. -/
def image : Regex :=
  .seq (.literal "url(") (.seq (.plus (.char .anyButNewline)) (.literal ")"))

/-- What is deleted from a background: positions, a repetition and an image, directly one after the
other, each of them optional. -/
def backgroundPart : Regex :=
  .seq (.star position)
    (.seq (.opt (.alt (.literal "repeat") (.literal "no-repeat"))) (.opt image))

/-- The value without the parts of a shorthand that may stay literal. A border of a single field and
every property that is no shorthand keep their values. -/
def normalize (property value : Bytes) : Bytes :=
  if isBorder property && 1 < value.fields.length then (borderPart.deleteAll value).trim
  else if isBackground property then (backgroundPart.deleteAll value).trim
  else value

end VarLint.Value
