import Hypertext.Proofs.Tree.Attach

/-!
# The tree below a node

What stands at and below a node, as a rose tree: of the nodes themselves (`Tree.rose`), and of
what they hold (`Tree.shape`). Both are read off the child lists; on a linked tree they satisfy
the equations that one expects (`Linked.rose_eq`, `Linked.shape_eq`).

* `Linked.induction`: what holds of a node as soon as it holds of its children holds of all.
* `Linked.mem_rose`: the nodes of the rose tree are the descendants of the node.
* `Linked.nodup_rose`: no node occurs twice, so there are no more of them than in the tree.
-/

namespace Hypertext

/-- A tree with its branches in order. -/
inductive Rose (α : Type) where
  | node (value : α) (below : List (Rose α))

namespace Rose

variable {α β : Type}

@[elab_as_elim, induction_eliminator]
theorem induction {P : Rose α → Prop}
    (node : ∀ value below, (∀ r ∈ below, P r) → P (.node value below)) : ∀ r, P r
  | .node value below => node value below fun r _ => induction node r

/-- The value at the top of a tree. -/
def value : Rose α → α
  | .node value _ => value

mutual

/-- The values of a tree, each before those below it. -/
def toList : Rose α → List α
  | .node value below => value :: listAll below

/-- The values of trees in order. -/
def listAll : List (Rose α) → List α
  | [] => []
  | r :: rest => toList r ++ listAll rest

end

mutual

/-- A tree of the same form with other values. -/
def map (f : α → β) : Rose α → Rose β
  | .node value below => .node (f value) (mapAll f below)

/-- Trees of the same forms with other values. -/
def mapAll (f : α → β) : List (Rose α) → List (Rose β)
  | [] => []
  | r :: rest => map f r :: mapAll f rest

end

theorem listAll_eq : ∀ rs : List (Rose α), listAll rs = rs.flatMap toList
  | [] => rfl
  | r :: rest => by rw [listAll, listAll_eq rest, List.flatMap_cons]

@[simp] theorem toList_node (value : α) (below : List (Rose α)) :
    (node value below).toList = value :: below.flatMap toList := by
  rw [toList, listAll_eq]

theorem mapAll_eq (f : α → β) : ∀ rs : List (Rose α), mapAll f rs = rs.map (map f)
  | [] => rfl
  | r :: rest => by rw [mapAll, mapAll_eq f rest, List.map_cons]

@[simp] theorem map_node (f : α → β) (value : α) (below : List (Rose α)) :
    (node value below).map f = node (f value) (below.map (map f)) := by
  rw [map, mapAll_eq]

theorem toList_map (f : α → β) (r : Rose α) : (r.map f).toList = r.toList.map f := by
  induction r with
  | node value below ih =>
    rw [map_node, toList_node, toList_node, List.map_cons, List.map_flatMap, List.flatMap_map]
    exact congrArg _ (List.flatMap_congr ih)

end Rose

namespace Tree

/-- The nodes at and below `id`, down to `depth` levels below it. -/
def roseWithin (t : Tree) : Nat → NodeId → Rose NodeId
  | 0, id => .node id []
  | depth + 1, id => .node id ((t.children id).map (t.roseWithin depth))

/-- The nodes at and below `id`. -/
def rose (t : Tree) (id : NodeId) : Rose NodeId :=
  t.roseWithin t.size id

/-- What a node holds; a place outside the tree counts as an empty document. -/
def contentAt (t : Tree) (id : NodeId) : Content :=
  (t.content? id).getD .document

theorem contentAt_of_content? {t : Tree} {id : NodeId} {content : Content}
    (hc : t.content? id = some content) : t.contentAt id = content := by
  rw [contentAt, hc, Option.getD_some]

theorem content?_eq_contentAt {t : Tree} {id : NodeId} (hid : id < t.size) :
    t.content? id = some (t.contentAt id) := by
  obtain ⟨cell, hcell⟩ := exists_cell hid
  rw [contentAt, content?, hcell, Option.map_some, Option.getD_some]

theorem isText_eq (t : Tree) (id : NodeId) : t.isText id = (t.contentAt id).isText := by
  rw [isText, contentAt]
  cases t.content? id <;> rfl

/-- The contents at and below `id`. -/
def shape (t : Tree) (id : NodeId) : Rose Content :=
  (t.rose id).map t.contentAt

namespace Linked

variable {t : Tree} {kids : NodeId → List NodeId} {id p c : NodeId}

theorem mem_children (h : Linked t kids) : c ∈ t.children p ↔ t.parent? c = some p := by
  rw [h.children_eq, h.mem_iff]

theorem lt_of_mem_children (h : Linked t kids) (hc : c ∈ t.children p) : c < t.size :=
  lt_size_of_link (h.mem_children.mp hc)

theorem children_eq_nil_of_le (h : Linked t kids) (hid : t.size ≤ id) : t.children id = [] :=
  List.eq_nil_iff_forall_not_mem.mpr fun _ hc =>
    Nat.not_lt.mpr hid (h.parent_lt (h.mem_children.mp hc))

/-- A node with as many nodes above it as there are in the tree has no children, for it is not
in the tree. -/
theorem children_eq_nil (h : Linked t kids) {above : List NodeId}
    (ha : Follows t.parent? (t.parent? id) above) (hn : t.size ≤ above.length) :
    t.children id = [] := by
  refine h.children_eq_nil_of_le (Nat.le_of_not_lt fun hid => ?_)
  have := h.length_above_lt hid ha
  omega

theorem follows_above_child (h : Linked t kids) (hc : c ∈ t.children p) {above : List NodeId}
    (ha : Follows t.parent? (t.parent? p) above) :
    Follows t.parent? (t.parent? c) (p :: above) := by
  rw [h.mem_children.mp hc]
  exact ⟨rfl, ha⟩

/-- What holds of a node as soon as it holds of its children holds of every node. -/
theorem induction (h : Linked t kids) {P : NodeId → Prop}
    (step : ∀ id, (∀ c ∈ t.children id, P c) → P id) (id : NodeId) : P id := by
  -- By induction on the number of levels that a tree of this size leaves below the node.
  have main : ∀ n id above, Follows t.parent? (t.parent? id) above →
      t.size ≤ n + above.length → P id := by
    intro n
    induction n with
    | zero =>
      intro id above ha hn
      refine step id fun c hc => ?_
      rw [h.children_eq_nil ha (by omega)] at hc
      cases hc
    | succ n ih =>
      intro id above ha hn
      refine step id fun c hc => ih c (id :: above) (h.follows_above_child hc ha) ?_
      rw [List.length_cons]
      omega
  obtain ⟨above, ha⟩ := h.upward id
  exact main t.size id above ha (Nat.le_add_right _ _)

/-- Beyond the levels that the tree has, the depth does not matter. -/
theorem roseWithin_stable (h : Linked t kids) : ∀ (n m : Nat) (id : NodeId)
    (above : List NodeId), Follows t.parent? (t.parent? id) above →
      t.size ≤ n + above.length → t.size ≤ m + above.length →
        t.roseWithin n id = t.roseWithin m id
  | 0, 0, _, _, _, _, _ => rfl
  | 0, m + 1, id, above, ha, hn, _ => by
    rw [roseWithin, roseWithin, h.children_eq_nil ha (by omega), List.map_nil]
  | n + 1, 0, id, above, ha, _, hm => by
    rw [roseWithin, roseWithin, h.children_eq_nil ha (by omega), List.map_nil]
  | n + 1, m + 1, id, above, ha, hn, hm => by
    rw [roseWithin, roseWithin]
    refine congrArg _ (List.map_congr_left fun c hc => ?_)
    refine h.roseWithin_stable n m c (id :: above) (h.follows_above_child hc ha) ?_ ?_
    all_goals rw [List.length_cons]; omega

theorem rose_eq (h : Linked t kids) (id : NodeId) :
    t.rose id = .node id ((t.children id).map t.rose) := by
  obtain ⟨above, ha⟩ := h.upward id
  have hsize := t.nonempty
  rw [rose, h.roseWithin_stable t.size (t.size + 1) id above ha (by omega) (by omega), roseWithin]
  rfl

theorem shape_eq (h : Linked t kids) (id : NodeId) :
    t.shape id = .node (t.contentAt id) ((t.children id).map t.shape) := by
  rw [shape, h.rose_eq, Rose.map_node, List.map_map]
  rfl

theorem shape_of_content? (h : Linked t kids) {content : Content}
    (hc : t.content? id = some content) :
    t.shape id = .node content ((t.children id).map t.shape) := by
  rw [h.shape_eq, contentAt_of_content? hc]

/-- A place outside the tree has the shape of an empty document. -/
theorem shape_of_none (h : Linked t kids) (hc : t.content? id = none) :
    t.shape id = .node .document [] := by
  rw [h.shape_eq, contentAt, hc, Option.getD_none,
    h.children_eq_nil_of_le (content?_eq_none.mp hc), List.map_nil]

/-! ## The nodes of a rose tree -/

theorem toList_rose (h : Linked t kids) (id : NodeId) :
    (t.rose id).toList = id :: (t.children id).flatMap fun c => (t.rose c).toList := by
  rw [h.rose_eq, Rose.toList_node, List.flatMap_map]

theorem length_rose_pos (h : Linked t kids) (id : NodeId) : 1 ≤ (t.rose id).toList.length := by
  rw [h.toList_rose, List.length_cons]
  exact Nat.le_add_left 1 _

theorem mem_rose (h : Linked t kids) {id x : NodeId} :
    x ∈ (t.rose id).toList ↔ t.AtOrBelow id x := by
  induction id using h.induction with
  | step id ih =>
    rw [h.toList_rose, List.mem_cons, List.mem_flatMap, AtOrBelow,
      Relation.ReflTransGen.cases_head_iff, eq_comm]
    exact or_congr_right (exists_congr fun c => and_congr_right fun hc => ih c hc)

/-- The nodes at and below a node of the tree are in the tree. -/
theorem lt_of_mem_rose (h : Linked t kids) (hid : id < t.size) {x : NodeId}
    (hx : x ∈ (t.rose id).toList) : x < t.size := by
  rcases (Relation.ReflTransGen.cases_tail_iff _ _ _).mp (h.mem_rose.mp hx) with rfl | ⟨p, -, hc⟩
  · exact hid
  · exact h.lt_of_mem_children hc

/-- A node is not below any of its children. -/
theorem not_atOrBelow_child (h : Linked t kids) (hc : c ∈ t.children p) : ¬ t.AtOrBelow c p := by
  obtain ⟨above, ha⟩ := h.upward p
  have hway : Follows t.parent? (some p) (p :: above) := ⟨rfl, ha⟩
  rw [← h.mem_way_iff hway]
  exact (h.follows_above_child hc ha).not_mem

/-- What stands below two children of one node stands below one child. -/
theorem eq_of_atOrBelow (h : Linked t kids) {c₁ c₂ x : NodeId} (h₁ : c₁ ∈ t.children p)
    (h₂ : c₂ ∈ t.children p) (hx₁ : t.AtOrBelow c₁ x) (hx₂ : t.AtOrBelow c₂ x) : c₁ = c₂ := by
  obtain ⟨above, ha⟩ := h.upward x
  have hway : Follows t.parent? (some x) (x :: above) := ⟨rfl, ha⟩
  -- The rest of the way up from `x` is the same behind both of them, as it leads from `p`.
  obtain ⟨xs, rest₁, e₁⟩ := List.append_of_mem ((h.mem_way_iff hway).mpr hx₁)
  obtain ⟨ys, rest₂, e₂⟩ := List.append_of_mem ((h.mem_way_iff hway).mpr hx₂)
  have f₁ := (e₁ ▸ hway).tail_suffix
  have f₂ := (e₂ ▸ hway).tail_suffix
  rw [h.mem_children.mp h₁] at f₁
  rw [h.mem_children.mp h₂] at f₂
  obtain rfl := f₁.unique f₂
  have e := (List.append_inj' (e₁.symm.trans e₂) rfl).2
  exact (List.cons.inj e).1

theorem nodup_rose (h : Linked t kids) (id : NodeId) : (t.rose id).toList.Nodup := by
  induction id using h.induction with
  | step id ih =>
    rw [h.toList_rose, List.nodup_cons]
    refine ⟨fun hm => ?_, List.nodup_flatMap.mpr ⟨ih, ?_⟩⟩
    · obtain ⟨c, hc, hx⟩ := List.mem_flatMap.mp hm
      exact h.not_atOrBelow_child hc (h.mem_rose.mp hx)
    · rw [h.children_eq]
      refine (h.nodup id).imp_of_mem fun h₁ h₂ hne x hx₁ hx₂ => ?_
      rw [← h.children_eq] at h₁ h₂
      exact hne (h.eq_of_atOrBelow h₁ h₂ (h.mem_rose.mp hx₁) (h.mem_rose.mp hx₂))

/-- There are no more nodes at and below a node than in the tree. -/
theorem length_rose_le (h : Linked t kids) (id : NodeId) :
    (t.rose id).toList.length ≤ t.size := by
  rcases Nat.lt_or_ge id t.size with hid | hid
  · exact length_le_of_nodup (h.nodup_rose id) fun _ => h.lt_of_mem_rose hid
  · rw [h.toList_rose, h.children_eq_nil_of_le hid]
    exact t.nonempty

end Linked

end Tree

end Hypertext
