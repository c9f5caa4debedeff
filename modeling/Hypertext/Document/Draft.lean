import Hypertext.Document.Dom

/-!
# Drafts

A document while it is being read. Parts are added, moved and taken out; each is known by the
number it was given when it was made. The contents of a template are kept apart from it, and
are no part of the finished document. Text is added to the text before it, if there is any.
-/

namespace Hypertext.Document

/-- The number of a part in a draft. -/
abbrev PartId := Nat

/-- A part in its place. -/
structure Draft.Entry where
  part : Part
  parent : Option PartId := none
  children : Array PartId := #[]
  /-- Where the contents of a template are kept. -/
  contents : Option PartId := none
  deriving Repr

/-- A document while it is being read. -/
structure Draft where
  entries : Array Draft.Entry
  deriving Repr

namespace Draft

/-- The number of the document itself. -/
def document : PartId := 0

/-- A document without any parts. -/
def empty : Draft := ⟨#[{ part := .document }]⟩

instance : Inhabited Draft := ⟨empty⟩

def entry? (d : Draft) (id : PartId) : Option Entry :=
  d.entries[id]?

def parent? (d : Draft) (id : PartId) : Option PartId :=
  (d.entry? id).bind (·.parent)

/-- The children of a part, first to last. -/
def children (d : Draft) (id : PartId) : Array PartId :=
  match d.entry? id with
  | some e => e.children
  | none => #[]

/-- The name of an element. -/
def name? (d : Draft) (id : PartId) : Option Name :=
  match d.entry? id with
  | some { part := .element name _, .. } => some name
  | _ => none

/-- The attributes of an element. -/
def attributes (d : Draft) (id : PartId) : List Attribute :=
  match d.entry? id with
  | some { part := .element _ attributes, .. } => attributes
  | _ => []

def modify (d : Draft) (id : PartId) (f : Entry → Entry) : Draft :=
  ⟨d.entries.modify id f⟩

/-- Makes a part that has no place yet. -/
def create (d : Draft) (part : Part) : Draft × PartId :=
  let id := d.entries.size
  (⟨d.entries.push { part }⟩, id)

/-- Makes an element that has no place yet; a template gets a place for its contents. -/
def createElement (d : Draft) (name : Name) (attributes : List Attribute) : Draft × PartId :=
  if name = Name.html "template" then
    let (d, contents) := d.create .document
    let (d, id) := d.create (.element name attributes)
    (d.modify id fun e => { e with contents := some contents }, id)
  else d.create (.element name attributes)

/-- Takes a part out of its place. -/
def detach (d : Draft) (id : PartId) : Draft :=
  match d.parent? id with
  | none => d
  | some parent =>
    let d := d.modify parent fun e => { e with children := e.children.filter (· != id) }
    d.modify id fun e => { e with parent := none }

/-- Puts a part that has no place at the end of another. -/
def append (d : Draft) (parent id : PartId) : Draft :=
  let d := d.modify parent fun e => { e with children := e.children.push id }
  d.modify id fun e => { e with parent := some parent }

/-- Puts a part that has no place before another one. -/
def insertBefore (d : Draft) (sibling id : PartId) : Draft :=
  match d.parent? sibling with
  | none => d
  | some parent =>
    let insert := fun (children : Array PartId) =>
      (children.toList.takeWhile (· != sibling) ++ id ::
        children.toList.dropWhile (· != sibling)).toArray
    let d := d.modify parent fun e => { e with children := insert e.children }
    d.modify id fun e => { e with parent := some parent }

/-- The child before another one. -/
def previous? (d : Draft) (sibling : PartId) : Option PartId :=
  (d.parent? sibling).bind fun parent =>
    ((d.children parent).toList.takeWhile (· != sibling)).getLast?

/-- Whether a part is a text. -/
def isText (d : Draft) (id : PartId) : Bool :=
  match d.entry? id with
  | some { part := .text _, .. } => true
  | _ => false

/-- Adds to the end of a text. -/
def extendText (d : Draft) (id : PartId) (data : String) : Draft :=
  d.modify id fun e =>
    match e with
    | { part := .text old, parent, children, contents } =>
      { part := .text (old ++ data), parent, children, contents }
    | e => e

/-- Adds text at the end of a part. -/
def appendText (d : Draft) (parent : PartId) (data : String) : Draft :=
  match (d.children parent).back? with
  | some last =>
    if d.isText last then d.extendText last data
    else
      let (d, id) := d.create (.text data)
      d.append parent id
  | none =>
    let (d, id) := d.create (.text data)
    d.append parent id

/-- Adds text before a part. -/
def insertTextBefore (d : Draft) (sibling : PartId) (data : String) : Draft :=
  let fresh := fun (d : Draft) =>
    let (d, id) := d.create (.text data)
    d.insertBefore sibling id
  match d.previous? sibling with
  | some previous => if d.isText previous then d.extendText previous data else fresh d
  | none => fresh d

/-- Moves all children of one part to the end of another. -/
def moveChildren (d : Draft) (source target : PartId) : Draft :=
  let moved := d.children source
  let d := d.modify source fun e => { e with children := #[] }
  let d := d.modify target fun e => { e with children := e.children ++ moved }
  moved.foldl (fun d id => d.modify id fun e => { e with parent := some target }) d

/-- Adds those attributes to an element whose keys it does not have. -/
def addMissing (d : Draft) (id : PartId) (attributes : List Attribute) : Draft :=
  d.modify id fun e =>
    match e with
    | { part := .element name old, parent, children, contents } =>
      let missing := attributes.filter fun a => !old.any (·.key == a.key)
      { part := .element name (old ++ missing), parent, children, contents }
    | e => e

/-- A part with all below it, down to `fuel` levels. -/
def domAt (d : Draft) : Nat → PartId → Dom
  | 0, _ => .node .document []
  | fuel + 1, id =>
    match d.entry? id with
    | none => .node .document []
    | some e => .node e.part (e.children.toList.map (domAt d fuel))

/-- The finished document. No part is deeper than there are parts. -/
def finish (d : Draft) : Dom :=
  d.domAt d.entries.size document

end Draft

end Hypertext.Document
