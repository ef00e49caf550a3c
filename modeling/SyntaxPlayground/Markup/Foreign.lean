import SyntaxPlayground.Markup.Basic

/-!
# Names in drawings and formulas

Tags and attributes are lower-cased when they are read, but some names of drawings and formulas have
capitals.
-/

namespace SyntaxPlayground

namespace Foreign

/-- Names with capitals, by their lower-cased form. -/
def byLowerCase (names : List String) : List (Text × Text) :=
  names.map fun name => ((utf8 name).map Text.lowerByte, utf8 name)

/-- The tags of drawings that have capitals. -/
def svgTags : List (Text × Text) :=
  byLowerCase ["altGlyph", "altGlyphDef", "altGlyphItem", "animateColor", "animateMotion",
    "animateTransform", "clipPath", "feBlend", "feColorMatrix", "feComponentTransfer",
    "feComposite", "feConvolveMatrix", "feDiffuseLighting", "feDisplacementMap", "feDistantLight",
    "feFlood", "feFuncA", "feFuncB", "feFuncG", "feFuncR", "feGaussianBlur", "feImage", "feMerge",
    "feMergeNode", "feMorphology", "feOffset", "fePointLight", "feSpecularLighting", "feSpotLight",
    "feTile", "feTurbulence", "foreignObject", "glyphRef", "linearGradient", "radialGradient",
    "textPath"]

/-- The attributes of drawings that have capitals. -/
def svgAttributes : List (Text × Text) :=
  byLowerCase ["attributeName", "attributeType", "baseFrequency", "baseProfile", "calcMode",
    "clipPathUnits", "diffuseConstant", "edgeMode", "filterUnits", "glyphRef", "gradientTransform",
    "gradientUnits", "kernelMatrix", "kernelUnitLength", "keyPoints", "keySplines", "keyTimes",
    "lengthAdjust", "limitingConeAngle", "markerHeight", "markerUnits", "markerWidth",
    "maskContentUnits", "maskUnits", "numOctaves", "pathLength", "patternContentUnits",
    "patternTransform", "patternUnits", "pointsAtX", "pointsAtY", "pointsAtZ", "preserveAlpha",
    "preserveAspectRatio", "primitiveUnits", "refX", "refY", "repeatCount", "repeatDur",
    "requiredExtensions", "requiredFeatures", "specularConstant", "specularExponent",
    "spreadMethod", "startOffset", "stdDeviation", "stitchTiles", "surfaceScale", "systemLanguage",
    "tableValues", "targetX", "targetY", "textLength", "viewBox", "viewTarget", "xChannelSelector",
    "yChannelSelector", "zoomAndPan"]

/-- The attributes of formulas that have capitals. -/
def mathAttributes : List (Text × Text) :=
  byLowerCase ["definitionURL"]

/-- The name of a tag as its namespace spells it. -/
def tagIn (space : Namespace) (tag : Text) : Text :=
  match space with
  | .svg => (svgTags.lookup tag).getD tag
  | _ => tag

/-- Attributes named as their namespace spells them. -/
def attrsIn (space : Namespace) (attrs : Attributes) : Attributes :=
  let table :=
    match space with
    | .html => []
    | .svg => svgAttributes
    | .math => mathAttributes
  attrs.map fun a => ⟨(table.lookup a.name).getD a.name, a.value⟩

end Foreign

end SyntaxPlayground
