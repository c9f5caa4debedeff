import Hypertext.Search

/-!
# Pruning

A copy of the nodes at and below a node, without the subtrees whose top satisfies a test. The
copy is a tree of its own: it keeps the order of children, and numbers its nodes in the order
in which the source is read, each node before its children.
-/

namespace Hypertext

namespace Tree

/-- Copies the pending nodes, each under the copy named with it, and then their children. At
most `fuel` nodes are tested. -/
def pruneOnto {σ : Type} (t : Tree) (drop : Test σ) :
    Nat → List (NodeId × NodeId) → Tree → σ → Tree × σ
  | 0, _, copy, s => (copy, s)
  | _, [], copy, s => (copy, s)
  | fuel + 1, (id, parent) :: rest, copy, s =>
    match drop id s with
    | (true, s) => pruneOnto t drop fuel rest copy s
    | (false, s) =>
      match t.content? id with
      | none => pruneOnto t drop fuel rest copy s
      | some content =>
        let (copy, new) := copy.add content
        let below := (t.childrenOnto (fun _ => true) id []).map (·, new)
        pruneOnto t drop fuel (below ++ rest) (copy.link parent new) s

/-- The copy of the tree at and below `id` without the subtrees that `drop` accepts; nothing is
left if it accepts `id` itself. -/
def prune {σ : Type} (t : Tree) (drop : Test σ) (id : NodeId) (s : σ) : Option Tree × σ :=
  match drop id s with
  | (true, s) => (none, s)
  | (false, s) =>
    match t.content? id with
    | none => (none, s)
    | some content =>
      let below := (t.childrenOnto (fun _ => true) id []).map (·, root)
      let (copy, s) := pruneOnto t drop t.size below (single content) s
      (some copy, s)

end Tree

end Hypertext
