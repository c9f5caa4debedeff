import Hypertext.Proofs.Tree.Rose

/-!
# Trees built in the order of reading

A tree of contents put below a node of an arena (`Tree.graft`), node by node: each node before
the nodes below it, and these in order. `Tree.ofRose` builds a whole arena in this way.

`Grafted` says what has become of an arena: it was only extended, the node has new children
behind the old ones, these have the given shapes, and the nodes at and below them are the new
nodes in the order of their numbers. It holds of nothing (`Grafted.refl`), of trees after trees
(`Grafted.append`) and of a node with trees below it (`Grafted.node`), and so of every graft.

* `reachable_ofRose`: the arena can be built by requests.
* `shape_ofRose`: it has the given shape.
* `compact_ofRose`: its nodes are numbered in the order of reading, and none is detached.
-/

namespace Hypertext.Tree

variable {t t' t'' : Tree} {kids kids' : NodeId → List NodeId} {id parent : NodeId}
  {rs rs' : List (Rose Content)} {content : Content}

mutual

/-- The arena with a tree of contents as the last child of `parent`. -/
def graft (t : Tree) (parent : NodeId) : Rose Content → Tree
  | .node content below => graftAll ((t.add content).1.link parent t.size) t.size below

/-- The arena with trees of contents as the last children of `parent`. -/
def graftAll (t : Tree) (parent : NodeId) : List (Rose Content) → Tree
  | [] => t
  | r :: rest => graftAll (graft t parent r) parent rest

end

/-- The arena of a tree of contents. -/
def ofRose : Rose Content → Tree
  | .node content below => (single content).graftAll root below

/-- From the root on, the nodes of an arena are read in the order of their numbers, and none is
left out. -/
def Compact (t : Tree) : Prop :=
  (t.rose root).toList = List.range t.size

/-- Trees after trees are grafted one after another. -/
theorem graftAll_append (parent : NodeId) : ∀ (xs ys : List (Rose Content)) (t : Tree),
    t.graftAll parent (xs ++ ys) = (t.graftAll parent xs).graftAll parent ys
  | [], _, _ => rfl
  | r :: rest, ys, t => by
    rw [List.cons_append, graftAll, graftAll, graftAll_append parent rest]

theorem graftAll_eq_foldl (parent : NodeId) : ∀ (rs : List (Rose Content)) (t : Tree),
    t.graftAll parent rs = rs.foldl (fun t r => t.graft parent r) t
  | [], _ => rfl
  | r :: rest, t => by rw [graftAll, graftAll_eq_foldl parent rest, List.foldl_cons]

/-- In an arena numbered in the order of reading, a node holds what is read in its turn. -/
theorem Compact.content?_eq (h : t.Compact) (id : NodeId) :
    t.content? id = (t.shape root).toList[id]? := by
  rw [shape, Rose.toList_map, h, List.getElem?_map]
  rcases Nat.lt_or_ge id t.size with hid | hid
  · rw [List.getElem?_range hid, Option.map_some, content?_eq_contentAt hid]
  · rw [List.getElem?_eq_none (by rw [List.length_range]; exact hid), Option.map_none]
    exact content?_eq_none.mpr hid

/-! ## What stays as it was -/

/-- The tree below a node depends on the child lists at and below the node only. -/
theorem Linked.rose_congr (h : Linked t kids) (h' : Linked t' kids')
    (hc : ∀ x ∈ (t.rose id).toList, t'.children x = t.children x) : t'.rose id = t.rose id := by
  induction id using h.induction with
  | step id ih =>
    rw [h.toList_rose] at hc
    rw [h'.rose_eq, h.rose_eq, hc id List.mem_cons_self]
    refine congrArg _ (List.map_congr_left fun c hcid => ih c hcid fun x hx => ?_)
    exact hc x (List.mem_cons_of_mem _ (List.mem_flatMap.mpr ⟨c, hcid, hx⟩))

/-- Its shape depends on the contents there as well. -/
theorem Linked.shape_congr (h : Linked t kids) (h' : Linked t' kids')
    (hc : ∀ x ∈ (t.rose id).toList, t'.children x = t.children x)
    (hd : ∀ x ∈ (t.rose id).toList, t'.content? x = t.content? x) : t'.shape id = t.shape id := by
  induction id using h.induction with
  | step id ih =>
    rw [h.toList_rose] at hc hd
    rw [h'.shape_eq, h.shape_eq, contentAt, contentAt, hc id List.mem_cons_self,
      hd id List.mem_cons_self]
    refine congrArg _ (List.map_congr_left fun c hcid => ?_)
    have hmem : ∀ x ∈ (t.rose c).toList,
        x ∈ id :: (t.children id).flatMap fun c => (t.rose c).toList := fun x hx =>
      List.mem_cons_of_mem _ (List.mem_flatMap.mpr ⟨c, hcid, hx⟩)
    exact ih c hcid (fun x hx => hc x (hmem x hx)) fun x hx => hd x (hmem x hx)

/-! ## Grafts -/

/-- The arena `t'` is `t` with trees of contents as the last children of `parent`. -/
structure Grafted (t : Tree) (parent : NodeId) (rs : List (Rose Content)) (t' : Tree) : Prop where
  built : ∃ requests, t' = t.run requests
  size_eq : t'.size = t.size + (rs.flatMap Rose.toList).length
  content?_old : ∀ id < t.size, t'.content? id = t.content? id
  children_old : ∀ id < t.size, id ≠ parent → t'.children id = t.children id
  /-- The new children have the shapes in order, and the nodes at and below them are numbered in
  the order of reading. -/
  children_parent : ∃ ids, t'.children parent = t.children parent ++ ids ∧
    ids.map t'.shape = rs ∧ ids.flatMap (fun id => (t'.rose id).toList) =
      List.range' t.size (rs.flatMap Rose.toList).length

namespace Grafted

theorem linked (g : Grafted t parent rs t') (h : Linked t kids) : Linked t' t'.children := by
  obtain ⟨requests, rfl⟩ := g.built
  obtain ⟨_, hrun⟩ := h.run requests
  exact hrun.self

theorem refl (t : Tree) (parent : NodeId) : Grafted t parent [] t where
  built := ⟨[], rfl⟩
  size_eq := rfl
  content?_old _ _ := rfl
  children_old _ _ _ := rfl
  children_parent := ⟨[], (List.append_nil _).symm, rfl, rfl⟩

/-- Grafting further trees below a node leaves what was grafted there before. -/
theorem append (g : Grafted t parent rs t') (g' : Grafted t' parent rs' t'') (h : Linked t kids)
    (hp : parent < t.size) : Grafted t parent (rs ++ rs') t'' := by
  obtain ⟨ids, hchildren, hshapes, hnumbers⟩ := g.children_parent
  obtain ⟨ids', hchildren', hshapes', hnumbers'⟩ := g'.children_parent
  have h' := g.linked h
  have h'' := g'.linked h'
  have hle : t.size ≤ t'.size := by rw [g.size_eq]; exact Nat.le_add_right _ _
  -- Nothing new at first is the parent, to which alone new children are added later.
  have hnew : ∀ id ∈ ids, ∀ x ∈ (t'.rose id).toList,
      t''.children x = t'.children x ∧ t''.content? x = t'.content? x := by
    intro id hid x hx
    have hmem : x ∈ ids.flatMap fun id => (t'.rose id).toList :=
      List.mem_flatMap.mpr ⟨id, hid, hx⟩
    rw [hnumbers, List.mem_range'_1] at hmem
    have hlt : x < t'.size := by rw [g.size_eq]; exact hmem.2
    have hne : x ≠ parent := Nat.ne_of_gt (Nat.lt_of_lt_of_le hp hmem.1)
    exact ⟨g'.children_old x hlt hne, g'.content?_old x hlt⟩
  have hrose : ∀ id ∈ ids, t''.rose id = t'.rose id := fun id hid =>
    h'.rose_congr h'' fun x hx => (hnew id hid x hx).1
  have hshape : ∀ id ∈ ids, t''.shape id = t'.shape id := fun id hid =>
    h'.shape_congr h'' (fun x hx => (hnew id hid x hx).1) fun x hx => (hnew id hid x hx).2
  refine {
    built := ?_
    size_eq := ?_
    content?_old := fun id hid => ?_
    children_old := fun id hid hne => ?_
    children_parent := ⟨ids ++ ids', ?_, ?_, ?_⟩ }
  · obtain ⟨requests, rfl⟩ := g.built
    obtain ⟨requests', rfl⟩ := g'.built
    exact ⟨requests ++ requests', List.foldl_append.symm⟩
  · rw [g'.size_eq, g.size_eq, List.flatMap_append, List.length_append, Nat.add_assoc]
  · rw [g'.content?_old id (Nat.lt_of_lt_of_le hid hle), g.content?_old id hid]
  · rw [g'.children_old id (Nat.lt_of_lt_of_le hid hle) hne, g.children_old id hid hne]
  · rw [hchildren', hchildren, List.append_assoc]
  · rw [List.map_append, List.map_congr_left hshape, hshapes, hshapes']
  · rw [List.flatMap_append, List.flatMap_congr fun id hid => by rw [hrose id hid], hnumbers,
      hnumbers', g.size_eq, List.flatMap_append, List.length_append, List.range'_append_1]

/-- A new last child, with trees grafted below it. -/
theorem node {below : List (Rose Content)} (h : Linked t kids) (hp : parent < t.size)
    (g : Grafted ((t.add content).1.link parent t.size) t.size below t') :
    Grafted t parent [.node content below] t' := by
  obtain ⟨ids, hchildren, hshapes, hnumbers⟩ := g.children_parent
  obtain ⟨requests, hbuilt⟩ := g.built
  have hl := h.linkable_add hp content
  have hlinked := (h.add content).link hl
  have hkids : ∀ q, ((t.add content).1.link parent t.size).children q =
      if parent = q then t.children q ++ [t.size] else t.children q := fun q => by
    rw [(h.add content).children_link hl, h.children_add]
  have hsize : ((t.add content).1.link parent t.size).size = t.size + 1 := by
    rw [size_link, size_add]
  have h' := g.linked hlinked
  have hnone : t.children t.size = [] := h.children_eq_nil_of_le (Nat.le_refl _)
  have hlength : ([Rose.node content below].flatMap Rose.toList).length =
      (below.flatMap Rose.toList).length + 1 := by
    rw [List.flatMap_singleton, Rose.toList_node, List.length_cons]
  have hbelow : t'.children t.size = ids := by
    rw [hchildren, hkids, if_neg (Nat.ne_of_lt hp), hnone, List.nil_append]
  have hcontent : t'.content? t.size = some content := by
    rw [g.content?_old t.size (by omega), content?_link, content?_add, if_pos rfl]
  refine {
    built := ⟨.addChild parent content :: requests, ?_⟩
    size_eq := ?_
    content?_old := fun id hid => ?_
    children_old := fun id hid hne => ?_
    children_parent := ⟨[t.size], ?_, ?_, ?_⟩ }
  · have hstep : t.step (.addChild parent content) = (t.add content).1.link parent t.size := by
      simp only [step, addChild, if_neg (Nat.not_le.mpr hp)]
      rfl
    rw [run, List.foldl_cons, hstep]
    exact hbuilt
  · rw [g.size_eq, hsize, hlength]
    omega
  · rw [g.content?_old id (by omega), content?_link, content?_add, if_neg (Nat.ne_of_lt hid)]
  · rw [g.children_old id (by omega) (Nat.ne_of_lt hid), hkids, if_neg hne.symm]
  · rw [g.children_old parent (hsize ▸ Nat.lt_succ_of_lt hp) (Nat.ne_of_lt hp), hkids, if_pos rfl]
  · rw [List.map_singleton, h'.shape_of_content? hcontent, hbelow, hshapes]
  · rw [List.flatMap_singleton, h'.toList_rose, hbelow, hnumbers, hlength, hsize,
      List.range'_succ]

end Grafted

/-- Trees one after another, if each of them is grafted. -/
theorem grafted_graftAll_of : ∀ (rs : List (Rose Content)) {t : Tree}
    {kids : NodeId → List NodeId}, Linked t kids → parent < t.size →
    (∀ r ∈ rs, ∀ {t : Tree} {kids : NodeId → List NodeId} (parent : NodeId), Linked t kids →
      parent < t.size → Grafted t parent [r] (t.graft parent r)) →
      Grafted t parent rs (t.graftAll parent rs)
  | [], t, _, _, _, _ => .refl t parent
  | r :: rest, t, _, h, hp, hrs => by
    have g := hrs r List.mem_cons_self parent h hp
    have hp' : parent < (t.graft parent r).size := by
      rw [g.size_eq]
      exact Nat.lt_add_right _ hp
    rw [graftAll]
    exact g.append (grafted_graftAll_of rest (g.linked h) hp' fun x hx =>
      hrs x (List.mem_cons_of_mem r hx)) h hp

/-- A tree of contents is grafted as it is, by induction on it. -/
theorem grafted_graft (r : Rose Content) : ∀ {t : Tree} {kids : NodeId → List NodeId}
    (parent : NodeId), Linked t kids → parent < t.size →
      Grafted t parent [r] (t.graft parent r) := by
  induction r with
  | node content below ih =>
    intro t kids parent h hp
    have hlinked := (h.add content).link (h.linkable_add hp content)
    have hnew : t.size < ((t.add content).1.link parent t.size).size := by
      rw [size_link, size_add]
      exact Nat.lt_succ_self _
    rw [graft]
    exact .node h hp (grafted_graftAll_of below hlinked hnew ih)

theorem grafted_graftAll (rs : List (Rose Content)) (h : Linked t kids) (hp : parent < t.size) :
    Grafted t parent rs (t.graftAll parent rs) :=
  grafted_graftAll_of rs h hp fun r _ => grafted_graft r

/-! ## Whole arenas -/

theorem grafted_ofRose (content : Content) (below : List (Rose Content)) :
    Grafted (single content) root below (ofRose (.node content below)) :=
  grafted_graftAll below (Linked.single content) (Nat.zero_lt_one)

theorem reachable_ofRose (r : Rose Content) : (ofRose r).Reachable := by
  obtain ⟨content, below⟩ := r
  obtain ⟨requests, hbuilt⟩ := (grafted_ofRose content below).built
  exact ⟨content, requests, hbuilt⟩

theorem children_root_single (content : Content) : (single content).children root = [] :=
  (Linked.single content).children_eq root

theorem shape_ofRose (r : Rose Content) : (ofRose r).shape root = r := by
  obtain ⟨content, below⟩ := r
  have g := grafted_ofRose content below
  obtain ⟨ids, hchildren, hshapes, -⟩ := g.children_parent
  have hcontent : (ofRose (.node content below)).content? root = some content :=
    g.content?_old root Nat.zero_lt_one
  rw [children_root_single, List.nil_append] at hchildren
  rw [(reachable_ofRose _).linked.shape_of_content? hcontent, hchildren, hshapes]

theorem compact_ofRose (r : Rose Content) : (ofRose r).Compact := by
  obtain ⟨content, below⟩ := r
  have g := grafted_ofRose content below
  obtain ⟨ids, hchildren, -, hnumbers⟩ := g.children_parent
  rw [children_root_single, List.nil_append] at hchildren
  rw [Compact, (reachable_ofRose _).linked.toList_rose, hchildren, hnumbers, g.size_eq, size_single,
    List.range_eq_range', Nat.add_comm, List.range'_succ]
  rfl

end Hypertext.Tree
