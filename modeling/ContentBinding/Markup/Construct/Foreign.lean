import ContentBinding.Markup.Construct.Builder

/-! Elements of SVG and MathML: the letter case of their names, and the places in them where HTML
content may stand. -/

namespace ContentBinding.Markup.Foreign

def svgElementNames : List String :=
  ["altGlyph", "altGlyphDef", "altGlyphItem", "animateColor", "animateMotion",
    "animateTransform", "clipPath", "feBlend", "feColorMatrix", "feComponentTransfer",
    "feComposite", "feConvolveMatrix", "feDiffuseLighting", "feDisplacementMap",
    "feDistantLight", "feFlood", "feFuncA", "feFuncB", "feFuncG", "feFuncR", "feGaussianBlur",
    "feImage", "feMerge", "feMergeNode", "feMorphology", "feOffset", "fePointLight",
    "feSpecularLighting", "feSpotLight", "feTile", "feTurbulence", "foreignObject", "glyphRef",
    "linearGradient", "radialGradient", "textPath"]

def svgAttrNames : List String :=
  ["attributeName", "attributeType", "baseFrequency", "baseProfile", "calcMode",
    "clipPathUnits", "contentScriptType", "contentStyleType", "diffuseConstant", "edgeMode",
    "externalResourcesRequired", "filterRes", "filterUnits", "glyphRef", "gradientTransform",
    "gradientUnits", "kernelMatrix", "kernelUnitLength", "keyPoints", "keySplines", "keyTimes",
    "lengthAdjust", "limitingConeAngle", "markerHeight", "markerUnits", "markerWidth",
    "maskContentUnits", "maskUnits", "numOctaves", "pathLength", "patternContentUnits",
    "patternTransform", "patternUnits", "pointsAtX", "pointsAtY", "pointsAtZ", "preserveAlpha",
    "preserveAspectRatio", "primitiveUnits", "refX", "refY", "repeatCount", "repeatDur",
    "requiredExtensions", "requiredFeatures", "specularConstant", "specularExponent",
    "spreadMethod", "startOffset", "stdDeviation", "stitchTiles", "surfaceScale",
    "systemLanguage", "tableValues", "targetX", "targetY", "textLength", "viewBox", "viewTarget",
    "xChannelSelector", "yChannelSelector", "zoomAndPan"]

/-- The name of the list that is equal but for the case of letters. -/
def respell (names : List String) (name : String) : String :=
  (names.find? fun n => lowerString n = name).getD name

def respellAttrs (names : List String) (t : Tag) : Tag :=
  { t with attrs := t.attrs.map fun (n, v) => (respell names n, v) }

def adjustAttrs (d : Dialect) (t : Tag) : Tag :=
  match d with
  | .svg => respellAttrs svgAttrNames t
  | .math => respellAttrs ["definitionURL"] t
  | .html => t

/-- A start tag inside an element of the dialect. -/
def adjustTag (d : Dialect) (t : Tag) : Tag :=
  let t := adjustAttrs d t
  match d with
  | .svg => { t with name := respell svgElementNames t.name }
  | _ => t

/-- Start tags that end foreign content. -/
def breakoutNames : List String :=
  ["b", "big", "blockquote", "body", "br", "center", "code", "dd", "div", "dl", "dt", "em",
    "embed", "h1", "h2", "h3", "h4", "h5", "h6", "head", "hr", "i", "img", "li", "listing",
    "menu", "meta", "nobr", "ol", "p", "pre", "ruby", "s", "small", "span", "strong", "strike",
    "sub", "sup", "table", "tt", "u", "ul", "var"]

def breaksOut (t : Tag) : Bool :=
  breakoutNames.contains t.name ||
    (t.name = "font" && t.attrs.any fun p => ["color", "face", "size"].contains p.1)

/-- Elements whose content is HTML although they are foreign. -/
def isHtmlPoint (e : Element) : Bool :=
  match e.dialect with
  | .svg => ["foreignObject", "desc", "title"].contains e.name
  | .math =>
    e.name = "annotation-xml" &&
      match e.attr? "encoding" with
      | some v => ["text/html", "application/xhtml+xml"].contains (lowerString v)
      | none => false
  | .html => false

/-- MathML elements that hold text. -/
def isTextPoint (e : Element) : Bool :=
  e.dialect = .math && ["mi", "mo", "mn", "ms", "mtext"].contains e.name

/-- Whether a token in this current element follows the rules of HTML content. -/
def isHtmlContent (e : Element) (t : Token) : Bool :=
  e.dialect = .html ||
  match t with
  | .startTag tag =>
    isHtmlPoint e || (isTextPoint e && tag.name != "mglyph" && tag.name != "malignmark") ||
      (e.dialect = .math && e.name = "annotation-xml" && tag.name = "svg")
  | .characters _ | .spaces _ => isHtmlPoint e || isTextPoint e
  | _ => false

end ContentBinding.Markup.Foreign
