import Hypertext.Tree

/-!
# Search

Lazy traversals of the nodes below a node, each node before its children and the children in
order. A traversal holds the nodes that are still pending, the one to visit next in front;
nothing is visited before it is asked for.

* `Walk` visits every node except text and what stands below text.
* `Search` looks for the nodes that satisfy a test. It tests text nodes too, but does not look
  below them, and it does not look below a node that satisfies the test.

A test may carry a state from call to call (`Test σ`), so the calls that a traversal makes are
part of its meaning.
-/

namespace Hypertext

/-- A question about nodes, with a state that is passed from each call to the next. -/
abbrev Test (σ : Type) := NodeId → σ → Bool × σ

namespace Test

/-- A test without a state. -/
def pure {σ : Type} (p : NodeId → Bool) : Test σ :=
  fun id s => (p id, s)

/-- The test that is put to elements only, and fails on all other nodes. -/
def onElements {σ : Type} (t : Tree) (p : Test σ) : Test σ :=
  fun id s => if t.isElement id then p id s else (false, s)

end Test

/-- A walk over the nodes that are not text. -/
structure Walk where
  pending : List NodeId

namespace Walk

/-- The walk from `id`, which is visited whatever it holds. -/
def start (id : NodeId) : Walk := ⟨[id]⟩

/-- The next node of a walk, and the walk after it. -/
def next? (t : Tree) (w : Walk) : Option (NodeId × Walk) :=
  match w.pending with
  | [] => none
  | id :: rest =>
    if t.isText id then some (id, ⟨rest⟩)
    else some (id, ⟨t.childrenOnto (fun child => !t.isText child) id rest⟩)

/-- The next `n` nodes, or all that remain if they are fewer, and the walk after them. -/
def take (t : Tree) : Nat → Walk → List NodeId × Walk
  | 0, w => ([], w)
  | n + 1, w =>
    match w.next? t with
    | none => ([], w)
    | some (id, w) =>
      let (ids, w) := take t n w
      (id :: ids, w)

end Walk

/-- A search for the nodes that satisfy a test. -/
structure Search where
  pending : List NodeId

namespace Search

/-- The search that begins at `id` itself. -/
def start (id : NodeId) : Search := ⟨[id]⟩

/-- The search that begins at the children of `id`. -/
def below (t : Tree) (id : NodeId) : Search :=
  if t.isText id then ⟨[]⟩ else ⟨t.childrenOnto (fun _ => true) id []⟩

/-- The next node that satisfies the test, the search after it, and the state after the calls
made on the way; at most `fuel` nodes are tested. -/
def nextWithin {σ : Type} (t : Tree) (p : Test σ) : Nat → Search → σ → Option NodeId × Search × σ
  | 0, w, s => (none, w, s)
  | fuel + 1, w, s =>
    match w.pending with
    | [] => (none, w, s)
    | id :: rest =>
      match p id s with
      | (true, s) => (some id, ⟨rest⟩, s)
      | (false, s) =>
        if t.isText id then nextWithin t p fuel ⟨rest⟩ s
        else nextWithin t p fuel ⟨t.childrenOnto (fun _ => true) id rest⟩ s

/-- The next node that satisfies the test, if any. -/
def next? {σ : Type} (t : Tree) (p : Test σ) (w : Search) (s : σ) : Option NodeId × Search × σ :=
  nextWithin t p t.size w s

/-- The next `n` nodes that satisfy the test, or all that remain if they are fewer. -/
def take {σ : Type} (t : Tree) (p : Test σ) : Nat → Search → σ → List NodeId × Search × σ
  | 0, w, s => ([], w, s)
  | n + 1, w, s =>
    match w.next? t p s with
    | (none, w, s) => ([], w, s)
    | (some id, w, s) =>
      let (ids, w, s) := take t p n w s
      (id :: ids, w, s)

/-- The first node at or below `id` that satisfies the test, and the state after the search. -/
def first? {σ : Type} (t : Tree) (p : Test σ) (id : NodeId) (s : σ) : Option NodeId × σ :=
  let (found, _, s) := (start id).next? t p s
  (found, s)

/-- What is shown of a search in diagnostics: how many nodes are pending. -/
def describe (w : Search) : String :=
  "FindAll \x7b pending: " ++ toString w.pending.length ++ ", .. \x7d"

end Search

end Hypertext
