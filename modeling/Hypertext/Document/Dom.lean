import Hypertext.Document.Name
import Hypertext.Tree

/-!
# Documents as trees

What reading a document gives: parts, each with its children in order. `Dom.toTree` numbers the
parts, each before its children, and so makes a tree of them.
-/

namespace Hypertext.Document

/-- A part of a document, without its children. -/
inductive Part where
  | document
  | doctype (d : Doctype)
  | text (data : String)
  | comment (data : String)
  | element (name : Name) (attributes : List Attribute)
  deriving DecidableEq, Repr

/-- What a part becomes in a tree. The tag of an element depends on its name alone, whatever
its vocabulary. -/
def Part.content : Part → Content
  | .document => .document
  | .doctype d => .doctype d
  | .text data => .text data
  | .comment data => .comment data
  | .element name attributes => .element (Element.named name.name attributes)

/-- A part of a document with its children. -/
inductive Dom where
  | node (part : Part) (children : List Dom)

namespace Dom

/-- The part at the top. -/
def part : Dom → Part
  | .node part _ => part

/-- The children of the part at the top. -/
def children : Dom → List Dom
  | .node _ children => children

mutual

/-- The number of parts, those below the top included. -/
def size : Dom → Nat
  | .node _ children => sizeAll children + 1

/-- The number of parts of documents in order. -/
def sizeAll : List Dom → Nat
  | [] => 0
  | d :: rest => size d + sizeAll rest

end

/-- Adds the pending parts, each as the last child of the node named with it, and then the parts
below them; at most `fuel` parts are added. -/
def copyOnto : Nat → List (Dom × NodeId) → Tree → Tree
  | 0, _, t => t
  | _, [], t => t
  | fuel + 1, (.node part children, parent) :: rest, t =>
    let (t, id) := t.add part.content
    copyOnto fuel (children.map (·, id) ++ rest) (t.link parent id)

/-- A document as a tree, its nodes in the order in which they are met. -/
def toTree (document : Dom) : Tree :=
  copyOnto document.size (document.children.map (·, Tree.root)) (.single .document)

end Dom

end Hypertext.Document
