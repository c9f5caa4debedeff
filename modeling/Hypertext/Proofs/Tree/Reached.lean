import Mathlib.Data.List.Flatten
import Hypertext.Proofs.Tree.Rose

/-!
# Walks that stop

A walk reads a tree from its top, each node before the nodes below it, and does not go below the
nodes where it stops. `Rose.reached` lists the nodes that it meets.

What a walk meets is said of the links of a tree by `Tree.Lists`: that a list has the nodes at
and below a node that satisfy a condition, each once and in the order of the walk.

* `Linked.lists_reached`: a walk meets the nodes that have no stop strictly above them.
* `Linked.exists_stop_above`: above a node where it would stop, a walk does stop.
* `Linked.eq_of_stop`: no stop that it meets is above another node that it meets.
-/

namespace Hypertext

namespace Rose

variable {α : Type} {stop : α → Bool}

mutual

/-- The values of a tree that are met on a walk that does not go below a stop. -/
def reached (stop : α → Bool) : Rose α → List α
  | .node value below => value :: if stop value then [] else reachedAll stop below

/-- The values met on such walks through trees in order. -/
def reachedAll (stop : α → Bool) : List (Rose α) → List α
  | [] => []
  | r :: rest => reached stop r ++ reachedAll stop rest

end

theorem reachedAll_eq (stop : α → Bool) : ∀ rs : List (Rose α),
    reachedAll stop rs = rs.flatMap (reached stop)
  | [] => rfl
  | r :: rest => by rw [reachedAll, reachedAll_eq stop rest, List.flatMap_cons]

theorem reached_node (stop : α → Bool) (value : α) (below : List (Rose α)) :
    (node value below).reached stop =
      value :: if stop value then [] else below.flatMap (reached stop) := by
  rw [reached, reachedAll_eq]

/-- A walk keeps to the order of the tree and meets nothing twice that stands there once. -/
theorem reached_sublist (stop : α → Bool) (r : Rose α) : (r.reached stop).Sublist r.toList := by
  induction r with
  | node value below ih =>
    rw [reached_node, toList_node]
    refine List.Sublist.cons_cons value ?_
    split
    · exact List.nil_sublist _
    · exact List.Sublist.flatMap_right below ih

/-- Stops that agree on the values of a tree lead to the same walk. -/
theorem reached_congr {stop' : α → Bool} (r : Rose α) (h : ∀ x ∈ r.toList, stop x = stop' x) :
    r.reached stop = r.reached stop' := by
  induction r with
  | node value below ih =>
    rw [toList_node] at h
    have hbelow : below.flatMap (reached stop) = below.flatMap (reached stop') :=
      List.flatMap_congr fun r hr => ih r hr fun x hx =>
        h x (List.mem_cons_of_mem _ (List.mem_flatMap.mpr ⟨r, hr, hx⟩))
    rw [reached_node, reached_node, h value List.mem_cons_self, hbelow]

end Rose

namespace Tree

variable {t : Tree} {kids : NodeId → List NodeId} {id a b c m x : NodeId} {stop : NodeId → Bool}

/-- From `top` on down, `a` is strictly above `x`. -/
def StrictlyAbove (t : Tree) (top a x : NodeId) : Prop :=
  t.AtOrBelow top a ∧ t.AtOrBelow a x ∧ a ≠ x

/-- The nodes at and below `id` that satisfy `P`, each of them once, and each before the nodes
below it. -/
structure Lists (t : Tree) (id : NodeId) (ids : List NodeId) (P : NodeId → Prop) : Prop where
  in_order : ids.Sublist (t.rose id).toList
  nodup : ids.Nodup
  mem_iff : ∀ x, x ∈ ids ↔ t.AtOrBelow id x ∧ P x

/-- The nodes at and below `id` that have no text strictly above them. -/
def shown (t : Tree) (id : NodeId) : List NodeId :=
  (t.rose id).reached t.isText

theorem Lists.filter {ids : List NodeId} {P : NodeId → Prop} (h : t.Lists id ids P)
    (p : NodeId → Bool) : t.Lists id (ids.filter p) fun x => P x ∧ p x where
  in_order := List.filter_sublist.trans h.in_order
  nodup := h.nodup.filter p
  mem_iff x := by rw [List.mem_filter, h.mem_iff, and_assoc]

theorem Lists.congr {ids : List NodeId} {P Q : NodeId → Prop} (h : t.Lists id ids P)
    (hPQ : ∀ x, t.AtOrBelow id x → (P x ↔ Q x)) : t.Lists id ids Q where
  in_order := h.in_order
  nodup := h.nodup
  mem_iff x := by rw [h.mem_iff]; exact and_congr_right (hPQ x)

theorem AtOrBelow.refl (t : Tree) (id : NodeId) : t.AtOrBelow id id :=
  Relation.ReflTransGen.refl

theorem AtOrBelow.trans (hab : t.AtOrBelow a b) (hbc : t.AtOrBelow b c) : t.AtOrBelow a c :=
  Relation.ReflTransGen.trans hab hbc

theorem AtOrBelow.child (hc : c ∈ t.children a) (hx : t.AtOrBelow c x) : t.AtOrBelow a x :=
  Relation.ReflTransGen.head hc hx

/-- A node below another one is at or below one of its children. -/
theorem AtOrBelow.eq_or_child (h : t.AtOrBelow a x) :
    a = x ∨ ∃ c ∈ t.children a, t.AtOrBelow c x := by
  rcases Relation.ReflTransGen.cases_head h with e | ⟨c, hc, hx⟩
  · exact .inl e
  · exact .inr ⟨c, hc, hx⟩

namespace Linked

theorem reached_rose (h : Linked t kids) (stop : NodeId → Bool) (id : NodeId) :
    (t.rose id).reached stop =
      id :: if stop id then [] else (t.children id).flatMap fun c => (t.rose c).reached stop := by
  rw [h.rose_eq, Rose.reached_node, List.flatMap_map]

/-- What a walk meets depends on its stops and on the child lists of the other nodes that it meets.
By induction on the tree below the node. -/
theorem reached_congr {u : Tree} {kids' : NodeId → List NodeId} {stop' : NodeId → Bool}
    (h : Linked t kids) (h' : Linked u kids')
    (hstop : ∀ x ∈ (t.rose id).reached stop, stop' x = stop x)
    (hchildren : ∀ x ∈ (t.rose id).reached stop, ¬ stop x → u.children x = t.children x) :
    (u.rose id).reached stop' = (t.rose id).reached stop := by
  induction id using h.induction with
  | step id ih =>
    rw [h.reached_rose] at hstop hchildren
    rw [h'.reached_rose, h.reached_rose, hstop id List.mem_cons_self]
    by_cases hs : stop id
    · rw [if_pos hs, if_pos hs]
    · simp only [if_neg hs] at hstop hchildren ⊢
      rw [hchildren id List.mem_cons_self hs]
      refine congrArg _ (List.flatMap_congr fun c hc => ?_)
      have hmem : ∀ x ∈ (t.rose c).reached stop,
          x ∈ id :: (t.children id).flatMap fun c => (t.rose c).reached stop := fun x hx =>
        List.mem_cons_of_mem _ (List.mem_flatMap.mpr ⟨c, hc, hx⟩)
      exact ih c hc (fun x hx => hstop x (hmem x hx)) fun x hx => hchildren x (hmem x hx)

/-- A node is not below any of its children, so these are below it in earnest. -/
theorem ne_of_below_child (h : Linked t kids) (hc : c ∈ t.children a) (hx : t.AtOrBelow c x) :
    a ≠ x := by
  rintro rfl
  exact h.not_atOrBelow_child hc hx

/-- What is strictly above a node below a child of `id`: the node `id`, or what is strictly above
from that child on. -/
theorem strictlyAbove_child (h : Linked t kids) (hc : c ∈ t.children id)
    (hx : t.AtOrBelow c x) : t.StrictlyAbove id a x ↔ a = id ∨ t.StrictlyAbove c a x := by
  constructor
  · rintro ⟨hida, hax, hne⟩
    rcases hida.eq_or_child with rfl | ⟨c', hc', hca⟩
    · exact .inl rfl
    · obtain rfl : c' = c := h.eq_of_atOrBelow hc' hc (hca.trans hax) hx
      exact .inr ⟨hca, hax, hne⟩
  · rintro (rfl | ⟨hca, hax, hne⟩)
    · exact ⟨.refl t a, .child hc hx, h.ne_of_below_child hc hx⟩
    · exact ⟨.child hc hca, hax, hne⟩

/-- Nothing is strictly above a node from that node on down. -/
theorem not_strictlyAbove_self (h : Linked t kids) : ¬ t.StrictlyAbove id a id := by
  rintro ⟨hida, haid, hne⟩
  rcases hida.eq_or_child with rfl | ⟨c, hc, hca⟩
  · exact hne rfl
  · exact h.not_atOrBelow_child hc (hca.trans haid)

theorem mem_reached (h : Linked t kids) : x ∈ (t.rose id).reached stop ↔
    t.AtOrBelow id x ∧ ∀ a, t.StrictlyAbove id a x → ¬ stop a := by
  induction id using h.induction with
  | step id ih =>
    rw [h.reached_rose, List.mem_cons]
    constructor
    · rintro (rfl | hx)
      · exact ⟨.refl t x, fun a ha => absurd ha h.not_strictlyAbove_self⟩
      · by_cases hs : stop id
        · rw [if_pos hs] at hx
          cases hx
        rw [if_neg hs] at hx
        obtain ⟨c, hc, hx⟩ := List.mem_flatMap.mp hx
        obtain ⟨hcx, hfree⟩ := (ih c hc).mp hx
        refine ⟨.child hc hcx, fun a ha => ?_⟩
        rcases (h.strictlyAbove_child hc hcx).mp ha with rfl | ha
        · exact hs
        · exact hfree a ha
    · rintro ⟨hx, hfree⟩
      rcases hx.eq_or_child with rfl | ⟨c, hc, hcx⟩
      · exact .inl rfl
      · have hs : ¬ stop id := hfree id ((h.strictlyAbove_child hc hcx).mpr (.inl rfl))
        rw [if_neg hs]
        refine .inr (List.mem_flatMap.mpr ⟨c, hc, (ih c hc).mpr ⟨hcx, fun a ha => ?_⟩⟩)
        exact hfree a ((h.strictlyAbove_child hc hcx).mpr (.inr ha))

/-- A walk meets the nodes that have no stop strictly above them, each once and in order. -/
theorem lists_reached (h : Linked t kids) (stop : NodeId → Bool) (id : NodeId) :
    t.Lists id ((t.rose id).reached stop) fun x => ∀ a, t.StrictlyAbove id a x → ¬ stop a where
  in_order := Rose.reached_sublist stop _
  nodup := (h.nodup_rose id).sublist (Rose.reached_sublist stop _)
  mem_iff _ := h.mem_reached

/-- At or above a node where a walk would stop, it does stop. -/
theorem exists_stop_above (h : Linked t kids) (stop : NodeId → Bool) (hx : t.AtOrBelow id x)
    (hs : stop x) :
    ∃ a ∈ (t.rose id).reached stop, stop a ∧ t.AtOrBelow a x := by
  induction id using h.induction with
  | step id ih =>
    rw [h.reached_rose]
    by_cases hid : stop id
    · exact ⟨id, List.mem_cons_self, hid, hx⟩
    · rcases hx.eq_or_child with rfl | ⟨c, hc, hcx⟩
      · exact absurd hs hid
      · obtain ⟨a, ha, hsa, hax⟩ := ih c hc hcx
        rw [if_neg hid]
        exact ⟨a, List.mem_cons_of_mem _ (List.mem_flatMap.mpr ⟨c, hc, ha⟩), hsa, hax⟩

/-- No stop that a walk meets is above another node that it meets. -/
theorem eq_of_stop (h : Linked t kids) (hm : m ∈ (t.rose id).reached stop) (hs : stop m)
    (hx : x ∈ (t.rose id).reached stop) (hmx : t.AtOrBelow m x) : m = x := by
  by_contra hne
  exact (h.mem_reached.mp hx).2 m ⟨(h.mem_reached.mp hm).1, hmx, hne⟩ hs

/-- Of two nodes above a node, one is above the other. -/
theorem atOrBelow_total (h : Linked t kids) (ha : t.AtOrBelow a x) (hb : t.AtOrBelow b x) :
    t.AtOrBelow a b ∨ t.AtOrBelow b a := by
  have hunique : Relator.RightUnique (Function.swap fun p c => c ∈ t.children p) :=
    fun _ _ _ hp hq =>
      Option.some.inj ((h.mem_children.mp hp).symm.trans (h.mem_children.mp hq))
  rcases Relation.ReflTransGen.total_of_right_unique hunique (Relation.reflTransGen_swap.mpr ha)
    (Relation.reflTransGen_swap.mpr hb) with hba | hab
  · exact .inr (Relation.reflTransGen_swap.mp hba)
  · exact .inl (Relation.reflTransGen_swap.mp hab)

end Linked

end Tree

end Hypertext
