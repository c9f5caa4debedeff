import Mathlib.Algebra.Ring.Nat
import Hypertext.Document.Dom
import Hypertext.Proofs.Tree.Graft

/-!
# The tree of a document

A document is copied into an arena from a list of pending parts, each with the node that it goes
below. A part that is taken from the list is added and linked, and the parts below it come in
front of those that were pending behind it. So what is pending is grafted in order, one part with
all below it after another (`Dom.copyOnto_eq`), and the whole copy is the arena of the tree of
contents that the document is (`Dom.toTree_eq`).

* `Dom.toTree_compact`: the copy is an ordered forest of the same form as the document, with its
  parts converted one by one and numbered in the order of reading, and nothing is detached.
-/

namespace Hypertext.Document.Dom

open Hypertext.Tree (root)

mutual

/-- A document as a tree of its parts. -/
def rose : Dom → Rose Part
  | .node part children => .node part (roseAll children)

/-- Documents in order as trees of their parts. -/
def roseAll : List Dom → List (Rose Part)
  | [] => []
  | d :: rest => rose d :: roseAll rest

end

/-- The parts of a document in the order of reading, each before the parts below it. -/
def parts (d : Dom) : List Part :=
  d.rose.toList

/-- What a document becomes in a tree. -/
def contents (d : Dom) : Rose Content :=
  d.rose.map Part.content

theorem roseAll_eq : ∀ ds : List Dom, roseAll ds = ds.map rose
  | [] => rfl
  | d :: rest => by rw [roseAll, roseAll_eq rest, List.map_cons]

theorem sizeAll_eq : ∀ ds : List Dom, sizeAll ds = (ds.map size).sum
  | [] => rfl
  | d :: rest => by rw [sizeAll, sizeAll_eq rest, List.map_cons, List.sum_cons]

theorem contents_node (part : Part) (children : List Dom) :
    (node part children).contents = .node part.content (children.map contents) := by
  rw [contents, rose, Rose.map_node, roseAll_eq, List.map_map]
  rfl

/-! ## From the list of pending parts -/

theorem copyOnto_nil (n : Nat) (t : Tree) : copyOnto n [] t = t := by
  cases n <;> rfl

/-- The number of parts that have still to be added. -/
def pendingSize (pending : List (Dom × NodeId)) : Nat :=
  (pending.map fun d => d.1.size).sum

theorem pendingSize_cons (d : Dom) (parent : NodeId) (rest : List (Dom × NodeId)) :
    pendingSize ((d, parent) :: rest) = d.size + pendingSize rest := by
  rw [pendingSize, List.map_cons, List.sum_cons, pendingSize]

/-- With the parts below one node in front, these are to be added as well. -/
theorem pendingSize_below (children : List Dom) (id : NodeId) (rest : List (Dom × NodeId)) :
    pendingSize (children.map (·, id) ++ rest) = sizeAll children + pendingSize rest := by
  rw [pendingSize, List.map_append, List.sum_append, List.map_map, sizeAll_eq, pendingSize]
  rfl

/-- Parts that are pending below the same node are grafted there, one after another. -/
theorem foldl_graft_children (children : List Dom) (id : NodeId) (t : Tree) :
    (children.map (·, id)).foldl (fun t d => t.graft d.2 d.1.contents) t =
      t.graftAll id (children.map contents) := by
  rw [Tree.graftAll_eq_foldl, List.foldl_map, List.foldl_map]

/-- The pending parts with all below them are grafted in order, each below its node. By induction
on the number of parts that have still to be added. -/
theorem copyOnto_eq (n : Nat) : ∀ (pending : List (Dom × NodeId)) (t : Tree),
    pendingSize pending ≤ n →
      copyOnto n pending t = pending.foldl (fun t d => t.graft d.2 d.1.contents) t := by
  induction n with
  | zero =>
    intro pending t hn
    cases pending with
    | nil => rfl
    | cons d rest =>
      obtain ⟨⟨part, children⟩, parent⟩ := d
      rw [pendingSize_cons, size] at hn
      omega
  | succ n ih =>
    intro pending t hn
    cases pending with
    | nil => exact copyOnto_nil _ t
    | cons d rest =>
      obtain ⟨⟨part, children⟩, parent⟩ := d
      rw [pendingSize_cons, size] at hn
      have hbelow : pendingSize (children.map (·, t.size) ++ rest) ≤ n := by
        rw [pendingSize_below]
        omega
      have hgraft : t.graft parent (node part children).contents =
          ((t.add part.content).1.link parent t.size).graftAll t.size
            (children.map contents) := by
        rw [contents_node, Tree.graft]
      rw [List.foldl_cons, hgraft, ← foldl_graft_children, ← List.foldl_append]
      exact ih _ _ hbelow

/-- The copy of a document is the arena of its tree of contents. -/
theorem toTree_eq (children : List Dom) :
    (node .document children).toTree = Tree.ofRose (node .document children).contents := by
  have hsize : pendingSize (children.map (·, root)) ≤ (node .document children).size := by
    have hbelow := pendingSize_below children root []
    rw [List.append_nil] at hbelow
    rw [hbelow, size, pendingSize, List.map_nil, List.sum_nil]
    omega
  rw [toTree, Dom.children, copyOnto_eq _ _ _ hsize, foldl_graft_children, contents_node,
    Tree.ofRose]
  rfl

theorem reachable_toTree (children : List Dom) : (node .document children).toTree.Reachable := by
  rw [toTree_eq]
  exact Tree.reachable_ofRose _

/-- The copy of a document has the form of the document. -/
theorem shape_toTree (children : List Dom) :
    (node .document children).toTree.shape root = (node .document children).contents := by
  rw [toTree_eq]
  exact Tree.shape_ofRose _

/-- The tree of a document is an ordered forest, of the same form as the document and with each
part converted: an element by its name and with its attributes in order. Its nodes have the
numbers of the parts in the order of reading, and all of them stand at or below the root. -/
theorem toTree_compact (children : List Dom) :
    (node .document children).toTree.Reachable ∧
    (node .document children).toTree.WellFormed ∧
    (node .document children).toTree.shape root =
      (node .document children).rose.map Part.content ∧
    (node .document children).toTree.Compact ∧
    (node .document children).toTree.size = (node .document children).parts.length ∧
    (node .document children).toTree.content? root = some .document ∧
    (∀ id, (node .document children).toTree.content? id =
      ((node .document children).parts[id]?).map Part.content) ∧
    (∀ id name attributes,
      (node .document children).parts[id]? = some (.element name attributes) →
        (node .document children).toTree.content? id =
          some (.element ⟨Tag.ofName? name.name, name.name, attributes⟩)) ∧
    ∀ id < (node .document children).toTree.size,
      (node .document children).toTree.AtOrBelow root id := by
  have hreachable := reachable_toTree children
  have hshape := shape_toTree children
  have hcompact := Tree.compact_ofRose (node .document children).contents
  rw [← toTree_eq] at hcompact
  have hlist : ((node .document children).toTree.shape root).toList =
      (node .document children).parts.map Part.content := by
    rw [hshape, contents, Rose.toList_map, parts]
  have hcontent : ∀ id, (node .document children).toTree.content? id =
      ((node .document children).parts[id]?).map Part.content := fun id => by
    rw [hcompact.content?_eq, hlist, List.getElem?_map]
  have hsize : (node .document children).toTree.size =
      (node .document children).parts.length := by
    have hlength := congrArg List.length hlist
    rw [Tree.shape, Rose.toList_map, List.length_map, hcompact, List.length_range,
      List.length_map] at hlength
    exact hlength
  refine ⟨hreachable, hreachable.linked.wellFormed, hshape, hcompact, hsize, ?_, hcontent,
    fun id name attributes hpart => ?_, fun id hid => ?_⟩
  · rw [hcontent, parts, rose, Rose.toList_node]
    rfl
  · rw [hcontent, hpart]
    rfl
  · rw [← hreachable.linked.mem_rose, hcompact, List.mem_range]
    exact hid

/-- What may be read below the root: a doctype, and a page with a link in a drawing. -/
def drawing : List Dom :=
  [.node (.doctype ⟨"html", "", ""⟩) [],
    .node (.element (.html "html") [])
      [.node (.element ⟨.svg, "svg"⟩ [])
        [.node (.element ⟨.svg, "link"⟩ [⟨"id", "a"⟩, ⟨"href", ""⟩]) [.node (.text "x") []]],
        .node (.comment "end") []]]

/-- The link has the tag that its name spells, though it is not one of HTML. -/
theorem toTree_drawing :
    (node .document drawing).parts[4]? =
      some (.element ⟨.svg, "link"⟩ [⟨"id", "a"⟩, ⟨"href", ""⟩]) ∧
    (node .document drawing).toTree.content? 4 =
      some (.element ⟨some .link, "link", [⟨"id", "a"⟩, ⟨"href", ""⟩]⟩) ∧
    (node .document drawing).toTree.size = 7 ∧
    (node .document drawing).toTree.AtOrBelow root 6 := by
  obtain ⟨-, -, -, -, hsize, -, -, helement, hbelow⟩ := toTree_compact drawing
  have hpart : (node .document drawing).parts[4]? =
      some (.element ⟨.svg, "link"⟩ [⟨"id", "a"⟩, ⟨"href", ""⟩]) := by decide +kernel
  have htag : Tag.ofName? "link" = some .link := by decide
  have hseven : (node .document drawing).toTree.size = 7 := hsize.trans (by decide +kernel)
  refine ⟨hpart, ?_, hseven, hbelow 6 ?_⟩
  · rw [helement 4 _ _ hpart, htag]
  · rw [hseven]
    decide

end Hypertext.Document.Dom
