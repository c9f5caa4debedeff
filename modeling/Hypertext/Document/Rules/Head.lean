import Hypertext.Document.Rules.Basic

/-!
# Rules for the head

The rules up to the body: before the document type, before the outermost element, before, in
and after the head, and in a `noscript` there. Tags that are left out are supplied.
-/

namespace Hypertext.Document.Builder

/-- Identifiers of old document types, of which the beginning counts. -/
def oldPublicBeginnings : List String :=
  ["-//advasoft ltd//dtd html 3.0 aswedit + extensions//",
    "-//as//dtd html 3.0 aswedit + extensions//",
    "-//ietf//dtd html 2.0 level 1//", "-//ietf//dtd html 2.0 level 2//",
    "-//ietf//dtd html 2.0 strict level 1//", "-//ietf//dtd html 2.0 strict level 2//",
    "-//ietf//dtd html 2.0 strict//", "-//ietf//dtd html 2.0//", "-//ietf//dtd html 2.1e//",
    "-//ietf//dtd html 3.0//", "-//ietf//dtd html 3.2 final//", "-//ietf//dtd html 3.2//",
    "-//ietf//dtd html 3//", "-//ietf//dtd html level 0//", "-//ietf//dtd html level 1//",
    "-//ietf//dtd html level 2//", "-//ietf//dtd html level 3//",
    "-//ietf//dtd html strict level 0//", "-//ietf//dtd html strict level 1//",
    "-//ietf//dtd html strict level 2//", "-//ietf//dtd html strict level 3//",
    "-//ietf//dtd html strict//", "-//ietf//dtd html//",
    "-//metrius//dtd metrius presentational//",
    "-//microsoft//dtd internet explorer 2.0 html strict//",
    "-//microsoft//dtd internet explorer 2.0 html//",
    "-//microsoft//dtd internet explorer 2.0 tables//",
    "-//microsoft//dtd internet explorer 3.0 html strict//",
    "-//microsoft//dtd internet explorer 3.0 html//",
    "-//microsoft//dtd internet explorer 3.0 tables//",
    "-//netscape comm. corp.//dtd html//", "-//netscape comm. corp.//dtd strict html//",
    "-//o'reilly and associates//dtd html 2.0//",
    "-//o'reilly and associates//dtd html extended 1.0//",
    "-//o'reilly and associates//dtd html extended relaxed 1.0//",
    "-//softquad software//dtd hotmetal pro 6.0::19990601::extensions to html 4.0//",
    "-//softquad//dtd hotmetal pro 4.0::19971010::extensions to html 4.0//",
    "-//spyglass//dtd html 2.0 extended//", "-//sq//dtd html 2.0 hotmetal + extensions//",
    "-//sun microsystems corp.//dtd hotjava html//",
    "-//sun microsystems corp.//dtd hotjava strict html//",
    "-//w3c//dtd html 3 1995-03-24//", "-//w3c//dtd html 3.2 draft//",
    "-//w3c//dtd html 3.2 final//", "-//w3c//dtd html 3.2//", "-//w3c//dtd html 3.2s draft//",
    "-//w3c//dtd html 4.0 frameset//", "-//w3c//dtd html 4.0 transitional//",
    "-//w3c//dtd html experimental 19960712//", "-//w3c//dtd html experimental 970421//",
    "-//w3c//dtd w3 html//", "-//w3o//dtd w3 html 3.0//", "-//webtechs//dtd mozilla html 2.0//",
    "-//webtechs//dtd mozilla html//"]

/-- Identifiers of old document types. -/
def oldPublicIds : List String :=
  ["-//w3o//dtd w3 html strict 3.0//en//", "-/w3c/dtd html 4.0 transitional/en", "html"]

/-- Identifiers that mark an old document type unless there is a system identifier too. -/
def oldAloneBeginnings : List String :=
  ["-//w3c//dtd html 4.01 frameset//", "-//w3c//dtd html 4.01 transitional//"]

/-- The system identifier of an old document type. -/
def oldSystemId : String :=
  "http://www.ibm.com/data/dtd/v11/ibmxhtml1-transitional.dtd"

/-- Whether a text in small letters begins with one of some others. -/
def beginsWithAny (beginnings : List String) (s : String) : Bool :=
  beginnings.any fun b => b.toList.isPrefixOf s.toList

/-- A text in small letters. -/
def small (s : String) : String :=
  String.ofList (s.toList.map Char.toLower)

/-- Whether a document of this type follows the rules of old browsers. -/
def hasOldRules (d : DoctypeToken) : Bool :=
  let publicId := d.publicId.map small
  let systemId := d.systemId.map small
  d.broken || d.name != some "html"
    || publicId.any oldPublicIds.contains
    || systemId == some oldSystemId
    || publicId.any (beginsWithAny oldPublicBeginnings)
    || (systemId.isNone && publicId.any (beginsWithAny oldAloneBeginnings))

/-- Adds a document type at the beginning; anywhere else it is passed over. -/
def addDoctype (b : Builder) (d : DoctypeToken) : Builder :=
  if b.mode = .initial then
    let doctype : Doctype := ⟨d.name.getD "", d.publicId.getD "", d.systemId.getD ""⟩
    let (draft, id) := b.draft.create (.doctype doctype)
    { b with
      draft := draft.append Draft.document id, oldRules := hasOldRules d, mode := .beforeHtml }
  else b

/-- The rules before the document type. -/
def initialRules (b : Builder) (token : Token) : Effect :=
  match token with
  | .text .mixed data => b.split data
  | .text .blank _ => b.done
  | .comment data => (b.addCommentTo Draft.document data).done
  | token => { b with oldRules := true }.again .beforeHtml token

/-- The rules before the outermost element. -/
def beforeHtmlRules (b : Builder) (token : Token) : Effect :=
  let otherwise := (b.startRoot []).again .beforeHead token
  match token with
  | .text .mixed data => b.split data
  | .text .blank _ => b.done
  | .comment data => (b.addCommentTo Draft.document data).done
  | .startTag tag =>
    if tag.name = "html" then ((b.startRoot tag.attributes).enter .beforeHead).done else otherwise
  | .endTag name =>
    if ["head", "body", "html", "br"].contains name then otherwise else b.done
  | _ => otherwise

/-- Starts the head. -/
def startHead (b : Builder) (attributes : List Attribute) : Builder :=
  let b := b.start (Name.html "head") attributes
  { b with head := b.current? }

/-- The rules before the head. -/
def beforeHeadRules (b : Builder) (token : Token) : Effect :=
  let otherwise := (b.startHead []).again .inHead token
  match token with
  | .text .mixed data => b.split data
  | .text .blank _ => b.done
  | .comment data => (b.addComment data).done
  | .startTag tag =>
    if tag.name = "html" then b.mergeHtml tag
    else if tag.name = "head" then ((b.startHead tag.attributes).enter .inHead).done
    else otherwise
  | .endTag name =>
    if ["head", "body", "html", "br"].contains name then otherwise else b.done
  | _ => otherwise

/-- The start tag of a template. -/
def startTemplate (b : Builder) (tag : StartTag) : Builder :=
  let b := (b.mark.noFrameset.startTag tag).enter .inTemplate
  { b with templateModes := .inTemplate :: b.templateModes }

/-- The end tag of a template. -/
def endTemplate (b : Builder) : Builder :=
  if b.hasOpen "template" then
    let b := ((b.popWhile Name.endsImplicitlyAtAll).popThrough "template").forgetToMark
    { b with templateModes := b.templateModes.drop 1 }.resetMode
  else b

/-- The rules in the head. -/
def headRules (b : Builder) (token : Token) : Effect :=
  let otherwise := b.pop.again .afterHead token
  match token with
  | .text .mixed data => b.split data
  | .text .blank data => (b.addText data).done
  | .comment data => (b.addComment data).done
  | .startTag tag =>
    match tag.name with
    | "html" => b.mergeHtml tag
    | "base" | "basefont" | "bgsound" | "link" | "meta" => (b.addVoid tag).done
    | "title" => b.readText tag .escapableText
    | "noscript" => ((b.startTag tag).enter .inHeadNoscript).done
    | "noframes" | "style" => b.readText tag .rawText
    | "script" => b.readText tag .script
    | "template" => (b.startTemplate tag).done
    | "head" => b.done
    | _ => otherwise
  | .endTag name =>
    match name with
    | "head" => (b.pop.enter .afterHead).done
    | "template" => b.endTemplate.done
    | "body" | "html" | "br" => otherwise
    | _ => b.done
  | _ => otherwise

/-- The rules in a `noscript` in the head. -/
def headNoscriptRules (b : Builder) (token : Token) : Effect :=
  let otherwise := b.pop.again .inHead token
  match token with
  | .text .mixed data => b.split data
  | .text .blank _ => b.headRules token
  | .comment _ => b.headRules token
  | .startTag tag =>
    match tag.name with
    | "html" => b.mergeHtml tag
    | "basefont" | "bgsound" | "link" | "meta" | "noframes" | "style" => b.headRules token
    | "head" | "noscript" => b.done
    | _ => otherwise
  | .endTag name =>
    match name with
    | "noscript" => (b.pop.enter .inHead).done
    | "br" => otherwise
    | _ => b.done
  | _ => otherwise

/-- The rules after the head. What belongs in the head is still put there. -/
def afterHeadRules (b : Builder) (token : Token) : Effect :=
  let otherwise := (b.startImplied "body").again .inBody token
  match token with
  | .text .mixed data => b.split data
  | .text .blank data => (b.addText data).done
  | .comment data => (b.addComment data).done
  | .startTag tag =>
    match tag.name with
    | "html" => b.mergeHtml tag
    | "body" => ((b.startTag tag).noFrameset.enter .inBody).done
    | "frameset" => ((b.startTag tag).enter .inFrameset).done
    | "base" | "basefont" | "bgsound" | "link" | "meta" | "noframes" | "script" | "style"
    | "template" | "title" =>
      match b.head with
      | some head =>
        let (b, next) := { b with stack := head :: b.stack }.headRules token
        (b.removeOpen head, next)
      | none => otherwise
    | "head" => b.done
    | _ => otherwise
  | .endTag name =>
    match name with
    | "template" => b.headRules token
    | "body" | "html" | "br" => otherwise
    | _ => b.done
  | _ => otherwise

end Hypertext.Document.Builder
