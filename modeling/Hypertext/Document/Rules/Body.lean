import Hypertext.Document.Rules.Adoption
import Hypertext.Document.Rules.Foreign
import Hypertext.Document.Rules.Head

/-!
# Rules for the body

Start tags close what cannot contain them; end tags close what is open in them. Formatting
elements that were closed by the structure around them are started again before text and before
most elements. The rules for start tags come in groups, each of which leaves to the next one what it
does not mention.
-/

namespace Hypertext.Document.Builder

/-- Tags of structural elements, which end an open paragraph. -/
def blockNames : List String :=
  ["address", "article", "aside", "blockquote", "center", "details", "dialog", "dir", "div",
    "dl", "fieldset", "figcaption", "figure", "footer", "header", "hgroup", "main", "menu",
    "nav", "ol", "p", "search", "section", "summary", "ul"]

/-- Elements that only their own end tags end. -/
def closableNames : List String :=
  ["address", "article", "aside", "blockquote", "button", "center", "details", "dialog", "dir",
    "div", "dl", "fieldset", "figcaption", "figure", "footer", "header", "hgroup", "listing",
    "main", "menu", "nav", "ol", "pre", "search", "section", "summary", "ul"]

/-- Formatting elements other than links. -/
def formattingNames : List String :=
  ["b", "big", "code", "em", "font", "i", "s", "small", "strike", "strong", "tt", "u"]

/-- Parts of tables and frames, whose start tags have no effect in the body. -/
def misplacedNames : List String :=
  ["caption", "col", "colgroup", "frame", "head", "tbody", "td", "tfoot", "th", "thead", "tr"]

/-- Elements that belong in the head, and are treated by its rules anywhere. -/
def headNames : List String :=
  ["base", "basefont", "bgsound", "link", "meta", "noframes", "script", "style", "template",
    "title"]

/-- Ends the innermost open item that a new one of these names replaces. The search goes out
to a special element other than an address, a division or a paragraph. -/
def endItem (b : Builder) (names : List String) : List PartId → Builder
  | [] => b
  | id :: rest =>
    let q := b.name id
    if q.isHtml names then b.close q.name
    else if q.isSpecial && !q.isHtml ["address", "div", "p"] then b
    else b.endItem names rest

/-- The body becomes a set of frames, if nothing speaks against it. -/
def replaceBody (b : Builder) (tag : StartTag) : Builder :=
  match b.body? with
  | some body =>
    if b.framesetOk then
      let b := { b with draft := b.draft.detach body, stack := b.stack.getLast?.toList }
      (b.startTag tag).enter .inFrameset
    else b
  | none => b

/-- Attributes of a second `body` tag go to the body, outside templates. -/
def mergeBody (b : Builder) (tag : StartTag) : Builder :=
  match b.body? with
  | some body =>
    if b.hasOpen "template" then b
    else { b with draft := b.draft.addMissing body tag.attributes, framesetOk := false }
  | none => b

/-- Starts a form, unless one is open; forms in templates do not count. -/
def startForm (b : Builder) (tag : StartTag) : Builder :=
  let inTemplate := b.hasOpen "template"
  if b.form.isSome && !inTemplate then b
  else
    let b := b.closeParagraph.startTag tag
    if inTemplate then b else { b with form := b.current? }

/-- Ends a form. -/
def endForm (b : Builder) : Builder :=
  if b.hasOpen "template" then
    if b.inScope Name.boundsScope "form" then b.endImplied.popThrough "form" else b
  else
    match b.form with
    | none => b
    | some form =>
      let b := { b with form := none }
      if b.findsOpen Name.boundsScope (· == form) b.stack then b.endImplied.removeOpen form
      else b

/-- Starts a set of options. -/
def startSelect (b : Builder) (tag : StartTag) : Builder :=
  let b := (b.restartFormatting.startTag tag).noFrameset
  if [Mode.inTable, .inCaption, .inTableBody, .inRow, .inCell].contains b.mode then
    b.enter .inSelectInTable
  else b.enter .inSelect

/-- Whether an `input` is not seen. -/
def isHidden (tag : StartTag) : Bool :=
  (tag.attribute? "type").any (sameCaseless · "hidden")

/-- Adds an element without content to the body. -/
def addBodyVoid (b : Builder) (tag : StartTag) : Builder :=
  b.restartFormatting.addVoid tag

/-- The rules for start tags of options, ruby and other vocabularies, and of elements without a
rule of their own. -/
def ordinaryStartTag (b : Builder) (tag : StartTag) : Effect :=
  let name := tag.name
  if name = "select" then (b.startSelect tag).done
  else if name = "optgroup" ∨ name = "option" then
    let b := if b.currentIs "option" then b.pop else b
    (b.restartFormatting.startTag tag).done
  else if name = "rb" ∨ name = "rtc" then
    ((if b.inScope Name.boundsScope "ruby" then b.endImplied else b).startTag tag).done
  else if name = "rp" ∨ name = "rt" then
    let b := if b.inScope Name.boundsScope "ruby" then b.endImpliedExcept "rtc" else b
    (b.startTag tag).done
  else if name = "math" then (b.restartFormatting.startForeign ⟨.mathml, name⟩ tag).done
  else if name = "svg" then (b.restartFormatting.startForeign ⟨.svg, name⟩ tag).done
  else if misplacedNames.contains name then b.done
  else (b.restartFormatting.startTag tag).done

/-- The rules for start tags of elements whose content is text, and of those that follow. -/
def textStartTag (b : Builder) (tag : StartTag) : Effect :=
  let name := tag.name
  if name = "textarea" then
    { b.noFrameset with dropNewline := true }.readText tag .escapableText
  else if name = "xmp" then
    b.closeParagraph.restartFormatting.noFrameset.readText tag .rawText
  else if name = "iframe" then b.noFrameset.readText tag .rawText
  else if name = "noembed" then b.readText tag .rawText
  else b.ordinaryStartTag tag

/-- Elements without content that end the hope for a set of frames. -/
def emptyNames : List String :=
  ["area", "br", "embed", "img", "keygen", "wbr"]

/-- The rules for start tags of elements without content, and of those that follow. -/
def emptyStartTag (b : Builder) (tag : StartTag) : Effect :=
  let name := tag.name
  if emptyNames.contains name then (b.addBodyVoid tag).noFrameset.done
  else if name = "image" then (b.addBodyVoid { tag with name := "img" }).noFrameset.done
  else if name = "input" then
    let b := b.addBodyVoid tag
    (if isHidden tag then b else b.noFrameset).done
  else if name = "param" ∨ name = "source" ∨ name = "track" then (b.addVoid tag).done
  else if name = "hr" then (b.closeParagraph.addVoid tag).noFrameset.done
  else b.textStartTag tag

/-- The rules for start tags of formatting elements, of elements to which formatting is confined,
and of those that follow. -/
def formattingStartTag (b : Builder) (tag : StartTag) : Effect :=
  let name := tag.name
  if name = "button" then
    let b := if b.inScope Name.boundsScope "button" then b.endImplied.popThrough "button" else b
    (b.restartFormatting.startTag tag).noFrameset.done
  else if name = "a" then (b.endOpenLink.restartFormatting.startFormatting tag).done
  else if formattingNames.contains name then (b.restartFormatting.startFormatting tag).done
  else if name = "nobr" then
    let b := b.restartFormatting
    let b :=
      if b.inScope Name.boundsScope "nobr" then (b.endFormatting "nobr").restartFormatting else b
    (b.startFormatting tag).done
  else if name = "applet" ∨ name = "marquee" ∨ name = "object" then
    (b.restartFormatting.startTag tag).mark.noFrameset.done
  else if name = "table" then
    let b := if b.oldRules then b else b.closeParagraph
    ((b.startTag tag).noFrameset.enter .inTable).done
  else b.emptyStartTag tag

/-- The rules for start tags of structural elements, which end an open paragraph, and of those that
follow. -/
def blockStartTag (b : Builder) (tag : StartTag) : Effect :=
  let name := tag.name
  if blockNames.contains name then (b.closeParagraph.startTag tag).done
  else if (Name.html name).isHeading then
    let b := b.closeParagraph
    ((if b.currentIn Name.isHeading then b.pop else b).startTag tag).done
  else if name = "pre" ∨ name = "listing" then
    { (b.closeParagraph.startTag tag).noFrameset with dropNewline := true }.done
  else if name = "form" then (b.startForm tag).done
  else if name = "li" then
    ((b.noFrameset.endItem ["li"] b.stack).closeParagraph.startTag tag).done
  else if name = "dd" ∨ name = "dt" then
    ((b.noFrameset.endItem ["dd", "dt"] b.stack).closeParagraph.startTag tag).done
  else if name = "plaintext" then (b.closeParagraph.startTag tag, .read .plainText)
  else b.formattingStartTag tag

/-- The rules for start tags in the body: of parts of the document, and of those that follow. -/
def bodyStartTag (b : Builder) (tag : StartTag) : Effect :=
  let name := tag.name
  if name = "html" then b.mergeHtml tag
  else if headNames.contains name then b.headRules (.startTag tag)
  else if name = "body" then (b.mergeBody tag).done
  else if name = "frameset" then (b.replaceBody tag).done
  else b.blockStartTag tag

/-- Ends an element with this name, if it is open here. -/
def endClosable (b : Builder) (bounds : Name → Bool) (name : String) : Builder :=
  if b.inScope bounds name then b.endImplied.popThrough name else b

/-- The rules for end tags in the body. -/
def bodyEndTag (b : Builder) (name : String) : Effect :=
  if name = "template" then b.headRules (.endTag name)
  else if name = "body" then
    (if b.inScope Name.boundsScope "body" then b.enter .afterBody else b).done
  else if name = "html" then
    if b.inScope Name.boundsScope "body" then b.again .afterBody (.endTag name) else b.done
  else if closableNames.contains name then (b.endClosable Name.boundsScope name).done
  else if name = "form" then b.endForm.done
  else if name = "p" then
    let b := if b.inScope Name.boundsButtonScope "p" then b else b.startImplied "p"
    (b.close "p").done
  else if name = "li" then
    (if b.inScope Name.boundsListScope name then b.close name else b).done
  else if name = "dd" ∨ name = "dt" then
    (if b.inScope Name.boundsScope name then b.close name else b).done
  else if (Name.html name).isHeading then
    let open_ := b.findsOpen Name.boundsScope (fun id => (b.name id).isHeading) b.stack
    (if open_ then b.endImplied.popThroughAny Name.isHeading else b).done
  else if name = "a" ∨ name = "nobr" ∨ formattingNames.contains name then
    (b.endFormatting name).done
  else if name = "applet" ∨ name = "marquee" ∨ name = "object" then
    (if b.inScope Name.boundsScope name then
      (b.endImplied.popThrough name).forgetToMark
    else b).done
  else if name = "br" then b.bodyStartTag ⟨"br", [], false⟩
  else ((b.endOther name)).done

/-- The end of the document inside a template, which is ended first. -/
def endInTemplate (b : Builder) : Effect :=
  if b.hasOpen "template" then
    let b := (b.popThrough "template").forgetToMark
    let b := { b with templateModes := b.templateModes.drop 1 }.resetMode
    b.again b.mode .endOfFile
  else b.done

/-- The rules in the body. -/
def bodyRules (b : Builder) (token : Token) : Effect :=
  match token with
  | .text _ data => (b.addBodyText data).done
  | .comment data => (b.addComment data).done
  | .startTag tag => b.bodyStartTag tag
  | .endTag name => b.bodyEndTag name
  | .endOfFile => if b.templateModes.isEmpty then b.done else b.endInTemplate
  | _ => b.done

/-- The rules in an element whose content is text. -/
def textRules (b : Builder) (token : Token) : Effect :=
  match token with
  | .text _ data => (b.addText data).done
  | .endTag _ => (b.pop.enter b.returnMode).done
  | .endOfFile => b.pop.again b.returnMode token
  | _ => b.done

/-- The rules in a template. The first element in it shows what kind of content it has. -/
def templateRules (b : Builder) (token : Token) : Effect :=
  let become := fun (mode : Mode) =>
    { b with templateModes := mode :: b.templateModes.drop 1 }.again mode token
  match token with
  | .text .. | .comment _ => b.bodyRules token
  | .startTag tag =>
    if headNames.contains tag.name then b.headRules token
    else if ["caption", "colgroup", "tbody", "tfoot", "thead"].contains tag.name then
      become .inTable
    else if tag.name = "col" then become .inColumnGroup
    else if tag.name = "tr" then become .inTableBody
    else if tag.name = "td" ∨ tag.name = "th" then become .inRow
    else become .inBody
  | .endTag name => if name = "template" then b.headRules token else b.done
  | .endOfFile => b.endInTemplate
  | _ => b.done

end Hypertext.Document.Builder
