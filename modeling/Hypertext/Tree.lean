import Hypertext.Content

/-!
# Trees

A tree keeps its nodes in one array. A node is named by its place there; place zero holds the
root. Each cell stores five links: to the parent, the first and last child, and the previous
and next sibling. A node that was added but not yet attached anywhere has no links upward and
may carry a subtree of its own.

`add` makes a detached node, `addChild` makes a node and attaches it, and `attach` attaches a
node made before. Only `attach` can be asked for something that would break the tree, and then
it names the first reason it meets: a place outside the array, a node that already has its
place, or a node below itself. Whatever they answer, `addChild` and `attach` give back the tree
as they leave it.
-/

namespace Hypertext

/-- The place of a node in its tree. -/
abbrev NodeId := Nat

/-- A node with its links. -/
structure Cell where
  content : Content
  parent : Option NodeId := none
  first : Option NodeId := none
  last : Option NodeId := none
  prev : Option NodeId := none
  next : Option NodeId := none
  deriving DecidableEq, Repr

/-- Why a tree cannot be extended as asked. -/
inductive TreeError where
  /-- The tree has no such node. -/
  | unknownNode (id : NodeId)
  /-- The node is the root, or has a parent. -/
  | alreadyAttached (id : NodeId)
  /-- The node is the new parent, or one of its ancestors. -/
  | cycle (id : NodeId)
  deriving DecidableEq, Repr

/-- What is reported for a refused extension. -/
def TreeError.message : TreeError → String
  | .unknownNode id => s!"node NodeId({id}) does not belong to this tree"
  | .alreadyAttached id => s!"node NodeId({id}) is already attached"
  | .cycle id => s!"appending node NodeId({id}) would create a cycle"

/-- An array of linked nodes, the root first. -/
structure Tree where
  cells : Array Cell
  nonempty : 0 < cells.size
  deriving DecidableEq, Repr

namespace Tree

/-- The tree of a single node. -/
def single (c : Content) : Tree :=
  ⟨#[{ content := c }], by simp⟩

/-- The tree of an empty document. -/
def empty : Tree :=
  single .document

instance : Inhabited Tree := ⟨empty⟩

/-- The number of nodes, detached ones included. -/
def size (t : Tree) : Nat :=
  t.cells.size

/-- The root of every tree. -/
def root : NodeId := 0

def cell? (t : Tree) (id : NodeId) : Option Cell :=
  t.cells[id]?

def content? (t : Tree) (id : NodeId) : Option Content :=
  (t.cell? id).map (·.content)

def parent? (t : Tree) (id : NodeId) : Option NodeId :=
  (t.cell? id).bind (·.parent)

def first? (t : Tree) (id : NodeId) : Option NodeId :=
  (t.cell? id).bind (·.first)

def last? (t : Tree) (id : NodeId) : Option NodeId :=
  (t.cell? id).bind (·.last)

def prev? (t : Tree) (id : NodeId) : Option NodeId :=
  (t.cell? id).bind (·.prev)

def next? (t : Tree) (id : NodeId) : Option NodeId :=
  (t.cell? id).bind (·.next)

/-- Whether `id` names a text node. -/
def isText (t : Tree) (id : NodeId) : Bool :=
  (t.content? id).any (·.isText)

/-- Whether `id` names an element. -/
def isElement (t : Tree) (id : NodeId) : Bool :=
  (t.content? id).any (·.isElement)

/-- Adds a node that is attached nowhere; its name is the old size of the tree. -/
def add (t : Tree) (c : Content) : Tree × NodeId :=
  let id := t.size
  (⟨t.cells.push { content := c }, by simp⟩, id)

/-- Changes one cell. -/
def modify (t : Tree) (id : NodeId) (f : Cell → Cell) : Tree :=
  ⟨t.cells.modify id f, by simpa using t.nonempty⟩

/-- Links a detached node as the last child of `parent`, without asking whether that keeps the
tree a tree. -/
def link (t : Tree) (parent child : NodeId) : Tree :=
  let prev := t.last? parent
  let t := t.modify child fun c => { c with parent := some parent, prev := prev, next := none }
  let t := match prev with
    | some sibling => t.modify sibling fun c => { c with next := some child }
    | none => t.modify parent fun c => { c with first := some child }
  t.modify parent fun c => { c with last := some child }

/-- Whether `target` is met on the way from `from?` up, within `fuel` steps. -/
def metAbove (t : Tree) (target : NodeId) : Nat → Option NodeId → Bool
  | 0, _ => false
  | _, none => false
  | fuel + 1, some id => id == target || t.metAbove target fuel (t.parent? id)

/-- Whether `target` is `id` or one of its ancestors. -/
def isAtOrAbove (t : Tree) (target id : NodeId) : Bool :=
  t.metAbove target t.size (some id)

/-- Attaches a detached node as the last child of `parent`: the tree after that, and whether it
was done. -/
def attach (t : Tree) (parent child : NodeId) : Tree × Except TreeError Unit :=
  if t.size ≤ parent then (t, .error (.unknownNode parent))
  else if t.size ≤ child then (t, .error (.unknownNode child))
  else if child = root ∨ (t.parent? child).isSome then (t, .error (.alreadyAttached child))
  else if t.isAtOrAbove child parent then (t, .error (.cycle child))
  else (t.link parent child, .ok ())

/-- Adds a node as the last child of `parent`: the tree after that, and the name of the node. -/
def addChild (t : Tree) (parent : NodeId) (c : Content) : Tree × Except TreeError NodeId :=
  if t.size ≤ parent then (t, .error (.unknownNode parent))
  else
    let (t, id) := t.add c
    (t.link parent id, .ok id)

/-- The siblings from `start` on, in order; `fuel` bounds their number. -/
def siblingsFrom (t : Tree) : Nat → Option NodeId → List NodeId
  | 0, _ => []
  | _, none => []
  | fuel + 1, some id => id :: t.siblingsFrom fuel (t.next? id)

/-- The children of a node, first to last. -/
def children (t : Tree) (id : NodeId) : List NodeId :=
  t.siblingsFrom t.size (t.first? id)

/-- The siblings up to `start` that `keep` accepts, in order and followed by `rest`; `fuel`
bounds their number. -/
def siblingsOnto (t : Tree) (keep : NodeId → Bool) :
    Nat → Option NodeId → List NodeId → List NodeId
  | 0, _, rest => rest
  | _, none, rest => rest
  | fuel + 1, some id, rest =>
    t.siblingsOnto keep fuel (t.prev? id) (if keep id then id :: rest else rest)

/-- The children of a node that `keep` accepts, followed by `rest`. The children are collected
from the last one back, so that nothing is copied. -/
def childrenOnto (t : Tree) (keep : NodeId → Bool) (id : NodeId) (rest : List NodeId) :
    List NodeId :=
  t.siblingsOnto keep t.size (t.last? id) rest

@[simp] theorem size_single (c : Content) : (single c).size = 1 := rfl

@[simp] theorem size_add (t : Tree) (c : Content) : (t.add c).1.size = t.size + 1 := by
  simp [add, size]

@[simp] theorem size_modify (t : Tree) (id : NodeId) (f : Cell → Cell) :
    (t.modify id f).size = t.size := by
  simp [modify, size]

@[simp] theorem size_link (t : Tree) (parent child : NodeId) :
    (t.link parent child).size = t.size := by
  simp only [link]
  split <;> simp

end Tree

end Hypertext
