import VarLint.Text.Rune

/-!
# Categories of properties

Properties are grouped by the kind of design token that they take.
-/

namespace VarLint

/-- The kinds of design tokens. -/
inductive PropertyCategory where
  | color
  | border
  | spacing
  | typography
  | effects
  | layout
  | custom
  deriving DecidableEq, Repr

namespace PropertyCategory

/-- The name of a category in reports. -/
def name : PropertyCategory → Bytes
  | color => "color"
  | border => "border"
  | spacing => "spacing"
  | typography => "typography"
  | effects => "effects"
  | layout => "layout"
  | custom => "custom"

/-- Properties whose whole name decides. -/
def byName : List (Bytes × PropertyCategory) :=
  [("color", color), ("background", color), ("background-color", color), ("fill", color),
    ("stroke", color), ("accent-color", color), ("caret-color", color), ("opacity", color),
    ("gap", spacing), ("row-gap", spacing), ("column-gap", spacing), ("line-height", typography),
    ("letter-spacing", typography), ("box-shadow", effects), ("text-shadow", effects),
    ("filter", effects), ("backdrop-filter", effects)]

/-- Properties whose start decides, the first entry that fits. -/
def byStart : List (Bytes × PropertyCategory) :=
  [("border", border), ("outline", border), ("padding", spacing), ("margin", spacing),
    ("inset", spacing), ("font", typography), ("text-", typography), ("transition", effects),
    ("animation", effects), ("transform", effects)]

/-- The marks that browser vendors put before a property. -/
def vendorMarks : List Bytes := ["-webkit-", "-moz-", "-ms-", "-o-"]

/-- A name without its vendor mark. -/
def withoutVendor (property : Bytes) : Bytes :=
  match vendorMarks.find? fun mark => mark.isPrefixOf property with
  | some mark => property.drop mark.length
  | none => property

/-- The category of a property, in any letter case. Unknown properties count as layout. -/
def ofProperty (property : Bytes) : PropertyCategory :=
  let lowered := property.toLower
  if (Bytes.ofString "--").isPrefixOf lowered then custom
  else
    let plain := withoutVendor lowered
    match byName.lookup plain with
    | some category => category
    | none =>
      if (Bytes.ofString "-color").isSuffixOf plain then color
      else match byStart.find? fun (start, _) => start.isPrefixOf plain with
        | some (_, category) => category
        | none => layout

end PropertyCategory

end VarLint
