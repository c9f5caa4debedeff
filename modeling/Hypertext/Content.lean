import Hypertext.Tag
import Hypertext.Text.Basic

/-!
# Node contents

What a node of a tree says, apart from its place in the tree: nothing (the document and the
error marker), a text, or an element with its tag and attributes.
-/

namespace Hypertext

/-- An attribute of an element; its value is empty for a bare attribute such as `checked`. -/
structure Attribute where
  key : String
  value : String
  deriving DecidableEq, Repr

/-- An element without its children. Attributes keep their order, and keys may repeat. -/
structure Element where
  /-- The known tag, if any. -/
  tag : Option Tag
  /-- The name as written in markup. -/
  name : String
  attributes : List Attribute
  deriving DecidableEq, Repr

namespace Element

/-- The element called `name`, with the tag that its name spells. -/
def named (name : String) (attributes : List Attribute) : Element :=
  ⟨Tag.ofName? name, name, attributes⟩

/-- The value of the first attribute with this key. -/
def attribute? (e : Element) (key : String) : Option String :=
  (e.attributes.find? (·.key == key)).map (·.value)

end Element

/-- A document type declaration; an absent part is the empty string. -/
structure Doctype where
  name : String
  publicId : String
  systemId : String
  deriving DecidableEq, Repr

/-- What a node holds. -/
inductive Content where
  /-- The root of a document. -/
  | document
  | element (e : Element)
  /-- A run of text, with its references already resolved. -/
  | text (data : String)
  /-- A comment, without its delimiters. -/
  | comment (data : String)
  | doctype (d : Doctype)
  /-- Markup that is written as it stands. -/
  | raw (data : String)
  /-- A marker for something that could not be represented. -/
  | error
  deriving DecidableEq, Repr

/-- The seven kinds of nodes. -/
inductive Kind where
  | document | element | text | comment | doctype | raw | error
  deriving DecidableEq, Repr

/-- The name of a kind, as shown in diagnostics. -/
def Kind.capitalName : Kind → String
  | .document => "Document"
  | .element => "Element"
  | .text => "Text"
  | .comment => "Comment"
  | .doctype => "Doctype"
  | .raw => "Raw"
  | .error => "Error"

namespace Content

def kind : Content → Kind
  | .document => .document
  | .element _ => .element
  | .text _ => .text
  | .comment _ => .comment
  | .doctype _ => .doctype
  | .raw _ => .raw
  | .error => .error

def isText : Content → Bool
  | .text _ => true
  | _ => false

def isElement : Content → Bool
  | .element _ => true
  | _ => false

def element? : Content → Option Element
  | .element e => some e
  | _ => none

/-- The known tag of an element; nothing for other nodes. -/
def tag? (c : Content) : Option Tag :=
  c.element?.bind (·.tag)

/-- The value of the first attribute with this key; nothing for other nodes than elements. -/
def attribute? (c : Content) (key : String) : Option String :=
  c.element?.bind (·.attribute? key)

end Content

/-- Whether `name` is one of the blank-separated words of the `class` attribute. -/
def Content.hasClass (c : Content) (name : String) : Bool :=
  match c.attribute? "class" with
  | none => false
  | some classes => (words classes.toList).contains name.toList

end Hypertext
