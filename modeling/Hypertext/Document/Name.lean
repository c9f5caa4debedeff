/-!
# Element names

An element belongs to HTML, to MathML or to SVG, and has a name there. The rules of documents
speak of sets of names; apart from a few names of MathML and SVG all of them are names of HTML.
-/

namespace Hypertext.Document

/-- The vocabularies of elements. -/
inductive Vocabulary where
  | html | mathml | svg
  deriving DecidableEq, Repr

/-- The name of an element in its vocabulary. -/
structure Name where
  vocabulary : Vocabulary
  name : String
  deriving DecidableEq, Repr

namespace Name

/-- A name of HTML. -/
def html (name : String) : Name := ⟨.html, name⟩

/-- Whether this is one of some names of HTML. -/
def isHtml (q : Name) (names : List String) : Bool :=
  q.vocabulary == .html && names.contains q.name

/-- The elements of MathML that hold text, which is read as HTML. -/
def holdsMathText (q : Name) : Bool :=
  q.vocabulary == .mathml && ["mi", "mo", "mn", "ms", "mtext"].contains q.name

/-- The elements of SVG whose content is read as HTML. -/
def holdsHtml (q : Name) : Bool :=
  q.vocabulary == .svg && ["foreignObject", "desc", "title"].contains q.name

/-- The elements that an open element is usually not looked for beyond. -/
def boundsScope (q : Name) : Bool :=
  q.isHtml ["applet", "caption", "html", "table", "td", "th", "marquee", "object", "template"]
    || q.holdsMathText || q.holdsHtml

/-- The elements that bound the search for an open list item. -/
def boundsListScope (q : Name) : Bool :=
  q.boundsScope || q.isHtml ["ol", "ul"]

/-- The elements that bound the search for an open paragraph. -/
def boundsButtonScope (q : Name) : Bool :=
  q.boundsScope || q.isHtml ["button"]

/-- The elements that bound the search for a part of a table. -/
def boundsTableScope (q : Name) : Bool :=
  q.isHtml ["html", "table", "template"]

/-- The elements that bound the search for an open `select`: all but options and their
groups. -/
def boundsSelectScope (q : Name) : Bool :=
  !q.isHtml ["optgroup", "option"]

/-- The elements whose end tags may be missing. -/
def endsImplicitly (q : Name) : Bool :=
  q.isHtml ["dd", "dt", "li", "optgroup", "option", "p", "rb", "rp", "rt", "rtc"]

/-- The elements whose end tags may be missing at the end of a template. -/
def endsImplicitlyAtAll (q : Name) : Bool :=
  q.endsImplicitly
    || q.isHtml ["caption", "colgroup", "tbody", "td", "tfoot", "th", "thead", "tr"]

/-- The elements with a meaning for the structure of a document. The end tag of any other
element does not close them. -/
def isSpecial (q : Name) : Bool :=
  q.isHtml
    ["address", "applet", "area", "article", "aside", "base", "basefont", "bgsound",
      "blockquote", "body", "br", "button", "caption", "center", "col", "colgroup", "dd",
      "details", "dir", "div", "dl", "dt", "embed", "fieldset", "figcaption", "figure", "footer",
      "form", "frame", "frameset", "h1", "h2", "h3", "h4", "h5", "h6", "head", "header",
      "hgroup", "hr", "html", "iframe", "img", "input", "isindex", "li", "link", "listing",
      "main", "marquee", "menu", "meta", "nav", "noembed", "noframes", "noscript", "object",
      "ol", "p", "param", "plaintext", "pre", "script", "search", "section", "select", "source",
      "style", "summary", "table", "tbody", "td", "template", "textarea", "tfoot", "th", "thead",
      "title", "tr", "track", "ul", "wbr", "xmp"]

/-- The headings. -/
def isHeading (q : Name) : Bool :=
  q.isHtml ["h1", "h2", "h3", "h4", "h5", "h6"]

/-- The elements that text must not stand in directly, so that it moves out of the table. -/
def isTablePart (q : Name) : Bool :=
  q.isHtml ["table", "tbody", "tfoot", "thead", "tr"]

/-- The elements that hold the rows of a table, and what bounds them. -/
def holdsRows (q : Name) : Bool :=
  q.isHtml ["tbody", "tfoot", "thead", "template", "html"]

/-- The elements that hold the cells of a table, and what bounds them. -/
def holdsCells (q : Name) : Bool :=
  q.isHtml ["tr", "template", "html"]

end Name

end Hypertext.Document
