import Hypertext.Proofs.Tree.Reached

/-!
# Trees that have grown

No request takes anything back. A node that is in the tree keeps what it holds, and its child list
is only ever extended, by one node at the end for each request that is granted (`Tree.Grows`).

* `Linked.step_cases`: what a request can do, refusals included.
* `Linked.grows_run`: a tree grows by any requests.
* `Grows.reached_sublist`: what a walk meets, the same walk meets in the grown tree, in the same
  order and perhaps with further nodes in between.
-/

namespace Hypertext.Tree

variable {t u : Tree} {kids kids' : NodeId → List NodeId} {p c q x id : NodeId}

/-- The node below which a request asks for a child. -/
def Request.parent? : Request → Option NodeId
  | .add _ => none
  | .addChild parent _ => some parent
  | .attach parent _ => some parent

namespace Linked

/-- What becomes of a tree that gets a request: nothing, a further node that is attached nowhere,
or a further child, which is a new node or one that had no parent. -/
theorem step_cases (h : Linked t kids) (r : Request) :
    t.step r = t ∨ (∃ c, r = .add c ∧ t.step r = (t.add c).1) ∨
      (∃ p c, r = .addChild p c ∧ Linkable (t.add c).1 p t.size ∧
        t.step r = (t.add c).1.link p t.size) ∨
      ∃ p c, r = .attach p c ∧ Linkable t p c ∧ t.step r = t.link p c := by
  cases r with
  | add c => exact .inr (.inl ⟨c, rfl, rfl⟩)
  | addChild p c =>
    by_cases hp : t.size ≤ p
    · exact .inl (by simp only [Tree.step, addChild, if_pos hp])
    · refine .inr (.inr (.inl ⟨p, c, rfl, h.linkable_add (Nat.not_le.mp hp) c, ?_⟩))
      simp only [Tree.step, addChild, if_neg hp]
      rfl
  | attach p c =>
    rcases t.attach_cases p c with ⟨e, he⟩ | hok
    · exact .inl (by simp only [Tree.step, he])
    · have hl := (h.linkable_of_attach hok).1
      exact .inr (.inr (.inr ⟨p, c, rfl, hl, by simp only [Tree.step, hok]⟩))

/-- A request changes no child list but that of the node that it asks a child for. -/
theorem children_step (h : Linked t kids) {r : Request} (hx : r.parent? ≠ some x) :
    (t.step r).children x = t.children x := by
  obtain e | ⟨c, -, e⟩ | ⟨p, c, rfl, hl, e⟩ | ⟨p, c, rfl, hl, e⟩ := h.step_cases r
  · rw [e]
  · rw [e, h.children_add]
  · rw [e, (h.add c).children_link hl, if_neg (fun hp => hx (congrArg some hp)), h.children_add]
  · rw [e, h.children_link hl, if_neg (fun hp => hx (congrArg some hp))]

end Linked

/-- The tree `u` is `t` with further nodes, and with further children at the end of child lists. -/
structure Grows (t u : Tree) : Prop where
  size_le : t.size ≤ u.size
  content?_eq : ∀ {x : NodeId}, x < t.size → u.content? x = t.content? x
  children_prefix : ∀ x, t.children x <+: u.children x

namespace Grows

theorem refl (t : Tree) : Grows t t where
  size_le := Nat.le_refl _
  content?_eq _ := rfl
  children_prefix _ := List.prefix_rfl

theorem trans {v : Tree} (g : Grows t u) (g' : Grows u v) : Grows t v where
  size_le := Nat.le_trans g.size_le g'.size_le
  content?_eq hx := (g'.content?_eq (Nat.lt_of_lt_of_le hx g.size_le)).trans (g.content?_eq hx)
  children_prefix x := (g.children_prefix x).trans (g'.children_prefix x)

theorem add (h : Linked t kids) (c : Content) : Grows t (t.add c).1 where
  size_le := by rw [size_add]; exact Nat.le_succ _
  content?_eq hx := by rw [content?_add, if_neg (Nat.ne_of_lt hx)]
  children_prefix x := (h.children_add c x).symm ▸ List.prefix_rfl

theorem link (h : Linked t kids) (hl : Linkable t p c) : Grows t (t.link p c) where
  size_le := Nat.le_of_eq (size_link t p c).symm
  content?_eq _ := content?_link t p c _
  children_prefix x := by
    rw [h.children_link hl]
    split
    · exact List.prefix_append _ _
    · exact List.prefix_rfl

theorem contentAt_eq (g : Grows t u) (hx : x < t.size) : u.contentAt x = t.contentAt x := by
  rw [contentAt, contentAt, g.content?_eq hx]

theorem isText_eq (g : Grows t u) (hx : x < t.size) : u.isText x = t.isText x := by
  rw [isText, isText, g.content?_eq hx]

/-- What stood below a node stands below it still. -/
theorem atOrBelow (g : Grows t u) (hx : t.AtOrBelow id x) : u.AtOrBelow id x :=
  Relation.ReflTransGen.mono (fun p _ hc => (g.children_prefix p).subset hc) _ _ hx

theorem strictlyAbove (g : Grows t u) {a : NodeId} (ha : t.StrictlyAbove id a x) :
    u.StrictlyAbove id a x :=
  ⟨g.atOrBelow ha.1, g.atOrBelow ha.2.1, ha.2.2⟩

/-- A walk that stops at the same nodes meets in the grown tree what it met before, in order. By
induction on the tree below the node. -/
theorem reached_sublist (g : Grows t u) (h : Linked t kids) (h' : Linked u kids')
    {stop stop' : NodeId → Bool} (hstop : ∀ x < t.size, stop' x = stop x) (hid : id < t.size) :
    ((t.rose id).reached stop).Sublist ((u.rose id).reached stop') := by
  induction id using h.induction with
  | step id ih =>
    rw [h.reached_rose, h'.reached_rose, hstop id hid]
    refine List.Sublist.cons_cons id ?_
    split
    · exact List.nil_sublist _
    · obtain ⟨more, hmore⟩ := g.children_prefix id
      rw [← hmore, List.flatMap_append]
      refine List.Sublist.trans ?_ (List.sublist_append_left _ _)
      exact List.Sublist.flatMap_right _ fun c hc => ih c hc (h.lt_of_mem_children hc)

end Grows

theorem Linked.grows_step (h : Linked t kids) (r : Request) : Grows t (t.step r) := by
  obtain e | ⟨c, -, e⟩ | ⟨p, c, -, hl, e⟩ | ⟨p, c, -, hl, e⟩ := h.step_cases r
  · rw [e]
    exact .refl t
  · rw [e]
    exact .add h c
  · rw [e]
    exact (Grows.add h c).trans (.link (h.add c) hl)
  · rw [e]
    exact .link h hl

/-- A tree grows by any requests. -/
theorem Linked.grows_run : ∀ {t : Tree} {kids : NodeId → List NodeId} (requests : List Request),
    Linked t kids → Grows t (t.run requests)
  | t, _, [], _ => .refl t
  | _, _, r :: requests, h =>
    have ⟨_, hr⟩ := h.step r
    (h.grows_step r).trans (grows_run requests hr)

end Hypertext.Tree
