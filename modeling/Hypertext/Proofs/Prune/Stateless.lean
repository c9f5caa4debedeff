import Hypertext.Proofs.Prune.Answers

/-!
# Pruning without a state

A test without a state may be put to the nodes of a tree in any order, so pruning is a function on
trees: of a tree whose top is kept there remains what is left of the trees below it
(`Rose.without`, `Rose.prune_pure`). It does not matter which values a tree has besides what the
test sees of them (`Rose.without_map`), nor whether two tests are applied together or one after the
other (`Rose.without_without`).

A copy is the arena of a tree of contents, numbered afresh. So pruning a copy again gives the very
arena that pruning once by both tests gives (`Tree.pruned_pruned`).
-/

namespace Hypertext

namespace Rose

variable {α β σ : Type} {p : α → Bool}

mutual

/-- What is left of a tree without the branches whose top satisfies `p`. -/
def without (p : α → Bool) : Rose α → Option (Rose α)
  | .node value below => if p value then none else some (.node value (withoutAll p below))

/-- What is left of trees in order. -/
def withoutAll (p : α → Bool) : List (Rose α) → List (Rose α)
  | [] => []
  | r :: rest => (without p r).toList ++ withoutAll p rest

end

theorem withoutAll_eq (p : α → Bool) : ∀ rs : List (Rose α),
    withoutAll p rs = rs.filterMap (without p)
  | [] => rfl
  | r :: rest => by
    rw [withoutAll, withoutAll_eq p rest, List.filterMap_cons]
    cases without p r <;> rfl

theorem without_node (p : α → Bool) (value : α) (below : List (Rose α)) :
    (node value below).without p =
      if p value then none else some (.node value (below.filterMap (without p))) := by
  rw [without, withoutAll_eq]

theorem pruneAll_pure (p : α → Bool) (s : σ) : ∀ rs : List (Rose α),
    (∀ r ∈ rs, r.prune (fun a s => (p a, s)) s = (r.without p, s)) →
      pruneAll (fun a s => (p a, s)) rs s = (rs.filterMap (without p), s)
  | [], _ => rfl
  | r :: rest, h => by
    have hrest := pruneAll_pure p s rest fun x hx => h x (List.mem_cons_of_mem r hx)
    rw [pruneAll, h r List.mem_cons_self]
    simp only [hrest, List.filterMap_cons]
    cases r.without p <;> rfl

/-- Without a state, pruning leaves what is left without the branches, and the state as it was. -/
theorem prune_pure (p : α → Bool) (r : Rose α) (s : σ) :
    r.prune (fun a s => (p a, s)) s = (r.without p, s) := by
  induction r with
  | node value below ih =>
    have hbelow := pruneAll_pure p s below ih
    rw [prune, without_node]
    cases p value with
    | true => rfl
    | false => simp only [hbelow, if_neg Bool.false_ne_true]

/-- Values may be changed before or after, as long as the test sees the same. -/
theorem without_map (p : β → Bool) (f : α → β) (r : Rose α) :
    (r.map f).without p = (r.without fun a => p (f a)).map (map f) := by
  induction r with
  | node value below ih =>
    rw [map_node, without_node, without_node]
    by_cases hp : p (f value)
    · rw [if_pos hp, if_pos hp, Option.map_none]
    · have hbelow : (below.map (map f)).filterMap (without p) =
          (below.filterMap (without fun a => p (f a))).map (map f) := by
        rw [List.filterMap_map, List.map_filterMap]
        exact List.filterMap_congr ih
      rw [if_neg hp, if_neg hp, Option.map_some, map_node, hbelow]

/-- What is left by one test and then by another is what is left by either of them: a branch below
one that goes later may go before. -/
theorem without_without (p q : α → Bool) (r : Rose α) :
    (r.without p).bind (without q) = r.without fun a => p a || q a := by
  induction r with
  | node value below ih =>
    rw [without_node p, without_node fun a => p a || q a]
    by_cases hp : p value
    · rw [if_pos hp, if_pos (by rw [hp, Bool.true_or]), Option.bind_none]
    · rw [if_neg hp, Option.bind_some, without_node, List.filterMap_filterMap,
        List.filterMap_congr ih, Bool.eq_false_iff.mpr hp, Bool.false_or]

end Rose

namespace Tree

variable {σ : Type} {t : Tree} {kids : NodeId → List NodeId} {id : NodeId}

/-- Without a state, pruning leaves the arena of what is kept. -/
theorem Linked.prune_pure_eq (h : Linked t kids) (hid : id < t.size) (p : NodeId → Bool) (s : σ) :
    t.prune (Test.pure p) id s =
      (((t.rose id).without p).map fun kept => ofRose (kept.map t.contentAt), s) := by
  have hpure : (t.rose id).prune (Test.pure p) s = ((t.rose id).without p, s) :=
    Rose.prune_pure p (t.rose id) s
  rw [h.prune_eq hid, hpure]

/-- The copy of the tree at and below `id` without the subtrees whose top holds what `p` accepts. -/
def pruned (t : Tree) (p : Content → Bool) (id : NodeId) : Option Tree :=
  (t.prune (Test.pure fun x => p (t.contentAt x)) id ()).1

/-- The copy is determined by the contents at and below the node. -/
theorem Linked.pruned_eq (h : Linked t kids) (hid : id < t.size) (p : Content → Bool) :
    t.pruned p id = ((t.shape id).without p).map ofRose := by
  rw [pruned, h.prune_pure_eq hid, shape, Rose.without_map, Option.map_map]
  rfl

/-- The copy of a copy. -/
theorem Linked.bind_pruned (h : Linked t kids) (hid : id < t.size) (p q : Content → Bool) :
    ((t.pruned p id).bind fun copy => copy.pruned q root) =
      ((t.shape id).without fun c => p c || q c).map ofRose := by
  rw [h.pruned_eq hid, ← Rose.without_without]
  cases (t.shape id).without p with
  | none => rfl
  | some kept =>
    have hroot : root < (ofRose kept).size := (ofRose kept).nonempty
    rw [Option.map_some, Option.bind_some, Option.bind_some,
      (reachable_ofRose kept).linked.pruned_eq hroot, shape_ofRose]

/-- Pruned by one test and then by another from its root on, a tree is the same arena as if it were
pruned once by either. Hence it is left as it is by pruning it by the same test again, and the order
of the tests does not matter. -/
theorem pruned_pruned (ht : t.Reachable) (hid : id < t.size) (p q : Content → Bool) :
    ((t.pruned p id).bind fun copy => copy.pruned q root) = t.pruned (fun c => p c || q c) id ∧
    ((t.pruned p id).bind fun copy => copy.pruned p root) = t.pruned p id ∧
    ((t.pruned p id).bind fun copy => copy.pruned q root) =
      (t.pruned q id).bind fun copy => copy.pruned p root := by
  have h := ht.linked
  refine ⟨?_, ?_, ?_⟩
  · rw [h.bind_pruned hid, h.pruned_eq hid]
  · rw [h.bind_pruned hid, h.pruned_eq hid]
    simp only [Bool.or_self]
  · rw [h.bind_pruned hid, h.bind_pruned hid]
    simp only [Bool.or_comm]

/-- First the three texts go and then the two items that held two of them, or the items go first. -/
theorem pruned_itemsThenText : itemsThenText.Reachable ∧
    (itemsThenText.pruned (·.isText) root).map size = some 4 ∧
    ((itemsThenText.pruned (·.isText) root).bind fun copy =>
      copy.pruned (·.tag? == some .li) root).map size = some 2 ∧
    ((itemsThenText.pruned (·.isText) root).bind fun copy =>
      copy.pruned (·.tag? == some .li) root) =
        (itemsThenText.pruned (·.tag? == some .li) root).bind fun copy =>
          copy.pruned (·.isText) root := by
  have ht : itemsThenText.Reachable := ⟨_, _, rfl⟩
  obtain ⟨honce, -, hswap⟩ := pruned_pruned ht (by decide : root < itemsThenText.size)
    (·.isText) (·.tag? == some .li)
  refine ⟨ht, by decide +kernel, ?_, hswap⟩
  rw [honce]
  decide +kernel

end Tree

end Hypertext
