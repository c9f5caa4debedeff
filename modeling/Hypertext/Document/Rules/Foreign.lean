import Hypertext.Document.Rules.Basic
import Hypertext.Reference.Numeric

/-!
# Rules for MathML and SVG

Elements of the other vocabularies keep the capital letters that their names have there, though
tags are read in small letters. A tag that clearly belongs to HTML ends them.
-/

namespace Hypertext.Document

/-- The names of SVG elements with capital letters. -/
def svgNames : List String :=
  ["altGlyph", "altGlyphDef", "altGlyphItem", "animateColor", "animateMotion",
    "animateTransform", "clipPath", "feBlend", "feColorMatrix", "feComponentTransfer",
    "feComposite", "feConvolveMatrix", "feDiffuseLighting", "feDisplacementMap",
    "feDistantLight", "feDropShadow", "feFlood", "feFuncA", "feFuncB", "feFuncG", "feFuncR",
    "feGaussianBlur", "feImage", "feMerge", "feMergeNode", "feMorphology", "feOffset",
    "fePointLight", "feSpecularLighting", "feSpotLight", "feTile", "feTurbulence",
    "foreignObject", "glyphRef", "linearGradient", "radialGradient", "textPath"]

/-- The keys of SVG attributes with capital letters. -/
def svgKeys : List String :=
  ["attributeName", "attributeType", "baseFrequency", "baseProfile", "calcMode",
    "clipPathUnits", "diffuseConstant", "edgeMode", "filterUnits", "glyphRef",
    "gradientTransform", "gradientUnits", "kernelMatrix", "kernelUnitLength", "keyPoints",
    "keySplines", "keyTimes", "lengthAdjust", "limitingConeAngle", "markerHeight",
    "markerUnits", "markerWidth", "maskContentUnits", "maskUnits", "numOctaves", "pathLength",
    "patternContentUnits", "patternTransform", "patternUnits", "pointsAtX", "pointsAtY",
    "pointsAtZ", "preserveAlpha", "preserveAspectRatio", "primitiveUnits", "refX", "refY",
    "repeatCount", "repeatDur", "requiredExtensions", "requiredFeatures", "specularConstant",
    "specularExponent", "spreadMethod", "startOffset", "stdDeviation", "stitchTiles",
    "surfaceScale", "systemLanguage", "tableValues", "targetX", "targetY", "textLength",
    "viewBox", "viewTarget", "xChannelSelector", "yChannelSelector", "zoomAndPan"]

/-- The keys of MathML attributes with capital letters. -/
def mathmlKeys : List String :=
  ["definitionURL"]

/-- Keys with a namespace, and the parts of them that are kept. -/
def qualifiedKeys : List (String × String) :=
  [("xlink:actuate", "actuate"), ("xlink:arcrole", "arcrole"), ("xlink:href", "href"),
    ("xlink:role", "role"), ("xlink:show", "show"), ("xlink:title", "title"),
    ("xlink:type", "type"), ("xml:lang", "lang"), ("xml:space", "space"),
    ("xmlns:xlink", "xlink")]

/-- A word with the capital letters that it has in a list. -/
def withCapitals (known : List String) (word : String) : String :=
  (known.find? fun k => k.toList.map Char.toLower == word.toList).getD word

/-- The key of an attribute in a vocabulary. -/
def keyIn (v : Vocabulary) (key : String) : String :=
  let key := match v with
    | .html => key
    | .mathml => withCapitals mathmlKeys key
    | .svg => withCapitals svgKeys key
  match qualifiedKeys.find? (·.1 == key) with
  | some (_, kept) => kept
  | none => key

/-- The attributes of an element in a vocabulary. -/
def attributesIn (v : Vocabulary) (attributes : List Attribute) : List Attribute :=
  attributes.map fun a => ⟨keyIn v a.key, a.value⟩

/-- The start tags that end elements of other vocabularies. -/
def isBreakout (tag : StartTag) : Bool :=
  ["b", "big", "blockquote", "body", "br", "center", "code", "dd", "div", "dl", "dt", "em",
    "embed", "h1", "h2", "h3", "h4", "h5", "h6", "head", "hr", "i", "img", "li", "listing",
    "menu", "meta", "nobr", "ol", "p", "pre", "ruby", "s", "small", "span", "strike", "strong",
    "sub", "sup", "table", "tt", "u", "ul", "var"].contains tag.name
    || (tag.name == "font"
      && tag.attributes.any fun a => ["color", "face", "size"].contains a.key)

/-- Two texts that differ in case only. -/
def sameCaseless (s t : String) : Bool :=
  s.toList.map Char.toLower == t.toList.map Char.toLower

namespace Builder

/-- Whether an `annotation-xml` element says that it holds HTML. -/
def annotatesHtml (b : Builder) (id : PartId) : Bool :=
  (b.draft.attributes id).any fun a =>
    a.key == "encoding"
      && (sameCaseless a.value "text/html" || sameCaseless a.value "application/xhtml+xml")

/-- Whether a token comes under the rules for other vocabularies. -/
def isForeign (b : Builder) (token : Token) : Bool :=
  match b.current? with
  | none => false
  | some id =>
    let q := b.name id
    if q.vocabulary == .html then false
    else
      match token with
      | .endOfFile => false
      | .text .. | .null =>
        !(q.holdsMathText || q.holdsHtml
          || (q == ⟨.mathml, "annotation-xml"⟩ && b.annotatesHtml id))
      | .startTag tag =>
        !((q.holdsMathText && tag.name != "mglyph" && tag.name != "malignmark") || q.holdsHtml
          || (q == ⟨.mathml, "annotation-xml"⟩ && (tag.name == "svg" || b.annotatesHtml id)))
      | _ => true

/-- Whether sections of character data are recognized: inside other vocabularies. -/
def allowsSections (b : Builder) : Bool :=
  b.current?.any fun id => (b.name id).vocabulary != .html

/-- Adds an element of another vocabulary, and starts it unless its tag closes itself. -/
def startForeign (b : Builder) (name : Name) (tag : StartTag) : Builder :=
  let (b, id) := b.insert name (attributesIn name.vocabulary tag.attributes)
  if tag.selfClosing then b else { b with stack := id :: b.stack }

/-- A start tag inside another vocabulary. -/
def startInside (b : Builder) (tag : StartTag) : Builder :=
  let v := (b.current?.map fun id => (b.name id).vocabulary).getD .html
  let name := match v with
    | .svg => withCapitals svgNames tag.name
    | _ => tag.name
  b.startForeign ⟨v, name⟩ tag

/-- Ends elements of other vocabularies, out to an element whose content is HTML. -/
def leaveForeign (b : Builder) : Builder :=
  b.popTo fun q => q.vocabulary == .html || q.holdsMathText || q.holdsHtml

/-- Looks for the element that an end tag ends, from the innermost out, as far as elements of
other vocabularies go. The answer is what stays open; or that the token has no effect; or that
the rules for HTML decide. -/
def endForeign (b : Builder) (name : String) (first : Bool) : List PartId → Option (List PartId)
  | [] => some b.stack
  | [_] => some b.stack
  | id :: rest =>
    let q := b.name id
    if !first && q.vocabulary == .html then none
    else if sameCaseless q.name name then some rest
    else b.endForeign name false rest

/-- The rules in other vocabularies, given the rules that hold otherwise. -/
def foreignRules (otherwise : Builder → Token → Effect) (b : Builder) (token : Token) : Effect :=
  match token with
  | .null => (b.addText [Reference.replacement]).done
  | .text _ data => ((if data.all isBlank then b else b.noFrameset).addText data).done
  | .comment data => (b.addComment data).done
  | .startTag tag =>
    if isBreakout tag then otherwise b.leaveForeign token else (b.startInside tag).done
  | .endTag name =>
    if name = "br" ∨ name = "p" then otherwise b.leaveForeign token
    else
      match b.endForeign name true b.stack with
      | some stack => { b with stack }.done
      | none => otherwise b token
  | _ => b.done

end Builder

end Hypertext.Document
