import Hypertext.Proofs.Tree.Graft
import Hypertext.Prune

/-!
# Pruning, tree by tree

Pruning by recursion on a tree (`Rose.prune`): a node that is dropped leaves nothing, and any
other stays, with what is left of the trees below it in order.

The copy is made from a list of pending nodes instead, each with the node of the copy that it
goes below. `Copies` says what some pending nodes make of the copy, whatever is pending behind
them: a node grafts what the recursion leaves of the tree below it (`Linked.copies_node`). So the
whole copy is the arena of the pruned tree (`Linked.prune_eq`).
-/

namespace Hypertext

namespace Rose

variable {α σ : Type}

mutual

/-- What is left of a tree without the branches that `drop` accepts, and the state after it was
asked, for each node before the nodes below it. -/
def prune (drop : α → σ → Bool × σ) : Rose α → σ → Option (Rose α) × σ
  | .node value below, s =>
    match drop value s with
    | (true, s) => (none, s)
    | (false, s) =>
      let (kept, s) := pruneAll drop below s
      (some (.node value kept), s)

/-- What is left of trees in order. -/
def pruneAll (drop : α → σ → Bool × σ) : List (Rose α) → σ → List (Rose α) × σ
  | [], s => ([], s)
  | r :: rest, s =>
    let (kept, s) := prune drop r s
    let (more, s) := pruneAll drop rest s
    (kept.toList ++ more, s)

end

theorem prune_of_dropped {drop : α → σ → Bool × σ} {value : α} {s s' : σ}
    (hd : drop value s = (true, s')) (below : List (Rose α)) :
    (node value below).prune drop s = (none, s') := by
  rw [prune, hd]

theorem prune_of_kept {drop : α → σ → Bool × σ} {value : α} {s s' : σ}
    (hd : drop value s = (false, s')) (below : List (Rose α)) :
    (node value below).prune drop s =
      (some (.node value (pruneAll drop below s').1), (pruneAll drop below s').2) := by
  rw [prune, hd]

/-- Nothing is left of a tree only if its top is dropped. -/
theorem prune_eq_none_iff {drop : α → σ → Bool × σ} {r : Rose α} {s : σ} :
    (r.prune drop s).1 = none ↔ (drop r.value s).1 = true := by
  obtain ⟨value, below⟩ := r
  show _ ↔ (drop value s).1 = true
  obtain ⟨b, s', hd⟩ : ∃ b s', drop value s = (b, s') := ⟨_, _, rfl⟩
  cases b with
  | true => simp [prune_of_dropped hd, hd]
  | false => simp [prune_of_kept hd, hd]

end Rose

namespace Tree

variable {σ : Type} {t : Tree} {kids : NodeId → List NodeId} {drop : Test σ} {id : NodeId}

/-- In at most `n` rounds the pending nodes make of the copy and the state what `r` says, and then
the copying goes on to what is pending behind them. -/
def Copies (t : Tree) (drop : Test σ) (n : Nat) (pending : List (NodeId × NodeId)) (copy : Tree)
    (s : σ) (r : Tree × σ) : Prop :=
  ∃ rounds ≤ n, ∀ fuel rest,
    t.pruneOnto drop (rounds + fuel) (pending ++ rest) copy s = t.pruneOnto drop fuel rest r.1 r.2

theorem Copies.nil (t : Tree) (drop : Test σ) (copy : Tree) (s : σ) :
    Copies t drop 0 [] copy s (copy, s) :=
  ⟨0, Nat.le_refl 0, fun fuel rest => by rw [Nat.zero_add, List.nil_append]⟩

theorem Copies.append {n m : Nat} {xs ys : List (NodeId × NodeId)} {copy : Tree} {s : σ}
    {r r' : Tree × σ} (hx : Copies t drop n xs copy s r) (hy : Copies t drop m ys r.1 r.2 r') :
    Copies t drop (n + m) (xs ++ ys) copy s r' := by
  obtain ⟨k, hk, hx⟩ := hx
  obtain ⟨l, hl, hy⟩ := hy
  refine ⟨k + l, Nat.add_le_add hk hl, fun fuel rest => ?_⟩
  rw [List.append_assoc, Nat.add_assoc, hx, hy]

/-- The copy with what is left of trees as the last children of `parent`. -/
def grafts (t : Tree) (copy : Tree) (parent : NodeId) (kept : List (Rose NodeId)) : Tree :=
  copy.graftAll parent (kept.map (Rose.map t.contentAt))

/-- Nodes one after another, if each of them grafts what is left of the tree below it. -/
theorem copies_nodes (parent : NodeId) : ∀ (ids : List NodeId) (copy : Tree) (s : σ),
    (∀ id ∈ ids, ∀ parent copy s, Copies t drop (t.rose id).toList.length [(id, parent)] copy s
      (t.grafts copy parent ((t.rose id).prune drop s).1.toList, ((t.rose id).prune drop s).2)) →
    Copies t drop (ids.flatMap fun id => (t.rose id).toList).length (ids.map (·, parent)) copy s
      (t.grafts copy parent (Rose.pruneAll drop (ids.map t.rose) s).1,
        (Rose.pruneAll drop (ids.map t.rose) s).2)
  | [], copy, s, _ => Copies.nil t drop copy s
  | id :: ids, copy, s, hids => by
    have hfirst := hids id List.mem_cons_self parent copy s
    have hrest := copies_nodes parent ids
      (t.grafts copy parent ((t.rose id).prune drop s).1.toList) ((t.rose id).prune drop s).2
      fun x hx => hids x (List.mem_cons_of_mem id hx)
    have hgrafts : ∀ xs ys, t.grafts copy parent (xs ++ ys) =
        t.grafts (t.grafts copy parent xs) parent ys := fun xs ys => by
      rw [grafts, List.map_append, graftAll_append]
      rfl
    rw [List.flatMap_cons, List.length_append, List.map_cons, List.map_cons, Rose.pruneAll]
    simp only [hgrafts]
    exact hfirst.append hrest

/-- A node grafts what is left of the tree below it, by induction on that tree. -/
theorem Linked.copies_node (h : Linked t kids) (drop : Test σ) (id : NodeId) : id < t.size →
    ∀ parent copy s, Copies t drop (t.rose id).toList.length [(id, parent)] copy s
      (t.grafts copy parent ((t.rose id).prune drop s).1.toList,
        ((t.rose id).prune drop s).2) := by
  induction id using h.induction with
  | step id ih =>
    intro hid parent copy s
    rw [h.toList_rose, List.length_cons, h.rose_eq]
    obtain ⟨b, s', hd⟩ : ∃ b s', drop id s = (b, s') := ⟨_, _, rfl⟩
    cases b with
    | true =>
      rw [Rose.prune_of_dropped hd]
      refine ⟨1, Nat.le_add_left 1 _, fun fuel rest => ?_⟩
      rw [Nat.add_comm, List.singleton_append]
      simp only [pruneOnto, hd]
      rfl
    | false =>
      obtain ⟨rounds, hle, hrun⟩ := copies_nodes copy.size (t.children id)
        ((copy.add (t.contentAt id)).1.link parent copy.size) s' fun c hc =>
          ih c hc (h.lt_of_mem_children hc)
      rw [Rose.prune_of_kept hd]
      refine ⟨rounds + 1, Nat.succ_le_succ hle, fun fuel rest => ?_⟩
      have hnew : t.grafts copy parent
          [.node id (Rose.pruneAll drop ((t.children id).map t.rose) s').1] =
            t.grafts ((copy.add (t.contentAt id)).1.link parent copy.size) copy.size
              (Rose.pruneAll drop ((t.children id).map t.rose) s').1 := by
        rw [grafts, List.map_singleton, Rose.map_node]
        rfl
      rw [Option.toList_some, hnew, Nat.add_right_comm, List.singleton_append, ← hrun]
      simp only [pruneOnto, hd, content?_eq_contentAt hid, h.childrenOnto_eq, List.filter_true,
        List.append_nil]
      rfl

/-- The copy is the arena of the pruned tree. -/
theorem Linked.prune_eq (h : Linked t kids) (hid : id < t.size) (drop : Test σ) (s : σ) :
    t.prune drop id s = (((t.rose id).prune drop s).1.map fun kept =>
      ofRose (kept.map t.contentAt), ((t.rose id).prune drop s).2) := by
  rw [h.rose_eq]
  obtain ⟨b, s', hd⟩ : ∃ b s', drop id s = (b, s') := ⟨_, _, rfl⟩
  cases b with
  | true =>
    rw [Rose.prune_of_dropped hd]
    simp only [prune, hd]
    rfl
  | false =>
    obtain ⟨rounds, hle, hrun⟩ := copies_nodes root (t.children id)
      (Tree.single (t.contentAt id)) s' fun c hc =>
        h.copies_node drop c (h.lt_of_mem_children hc)
    have hlength := h.length_rose_le id
    rw [h.toList_rose, List.length_cons] at hlength
    have hfuel : t.size = rounds + (t.size - rounds) := by omega
    have hend : ∀ fuel copy s, t.pruneOnto drop fuel [] copy s = (copy, s) := fun fuel copy s => by
      cases fuel <;> rfl
    replace hrun := hrun (t.size - rounds) []
    rw [← hfuel, List.append_nil, hend] at hrun
    rw [Rose.prune_of_kept hd]
    simp only [prune, hd, content?_eq_contentAt hid, h.childrenOnto_eq, List.filter_true,
      List.append_nil, hrun, Option.map_some, Rose.map_node]
    rfl

end Tree

end Hypertext
