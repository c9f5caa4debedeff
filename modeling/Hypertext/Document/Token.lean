import Hypertext.Content

/-!
# Tokens

The pieces that a document is cut into before its tree is built.
-/

namespace Hypertext.Document

/-- What is known about the characters of a text token: nothing yet, that all are blank, or
that none is. -/
inductive TextKind where
  | mixed | blank | solid
  deriving DecidableEq, Repr

/-- A start tag. Names are in small letters, and no attribute key occurs twice. -/
structure StartTag where
  name : String
  attributes : List Attribute := []
  selfClosing : Bool := false
  deriving DecidableEq, Repr

/-- A document type declaration. A declaration that breaks off, or says nothing, is broken. -/
structure DoctypeToken where
  name : Option String := none
  publicId : Option String := none
  systemId : Option String := none
  broken : Bool := false
  deriving DecidableEq, Repr

/-- A piece of a document. -/
inductive Token where
  | doctype (d : DoctypeToken)
  | startTag (tag : StartTag)
  | endTag (name : String)
  | comment (data : String)
  | text (kind : TextKind) (data : List Char)
  /-- The character with number zero. -/
  | null
  /-- A mistake that leaves no other trace than that something stood here. -/
  | mistake
  | endOfFile
  deriving DecidableEq, Repr

/-- How the characters of a document are read. -/
inductive Syntax where
  /-- As markup. -/
  | markup
  /-- As text with references, up to the end tag. -/
  | escapableText
  /-- As text, up to the end tag. -/
  | rawText
  /-- As a script, up to the end tag. -/
  | script
  /-- As text, up to the end of the document. -/
  | plainText
  deriving DecidableEq, Repr

namespace StartTag

/-- The value of the attribute with this key. -/
def attribute? (tag : StartTag) (key : String) : Option String :=
  (tag.attributes.find? (·.key == key)).map (·.value)

/-- Whether two tags have the same name, and the same attributes in any order. -/
def sameAs (a b : StartTag) : Bool :=
  a.name == b.name && a.attributes.length == b.attributes.length
    && a.attributes.all b.attributes.contains

end StartTag

end Hypertext.Document
