import Hypertext.Proofs.Tree.Linked

/-!
# Trees that can be built

A tree is built from a single node by requests to add, to add below a node, and to attach; a
refused request leaves it as it was. Whatever the requests, the links fit together
(`Reachable.linked`), and so the tree is an ordered forest (`wellFormed_run`):

* `Linked.step`: one request keeps the links together;
* `Linked.wellFormed`: what fitting together means for the links one by one.
-/

namespace Hypertext.Tree

/-- A request to extend a tree. -/
inductive Request where
  | add (c : Content)
  | addChild (parent : NodeId) (c : Content)
  | attach (parent child : NodeId)
  deriving DecidableEq, Repr

/-- The tree after a request, whatever the answer to it. -/
def step (t : Tree) : Request → Tree
  | .add c => (t.add c).1
  | .addChild parent c => (t.addChild parent c).1
  | .attach parent child => (t.attach parent child).1

/-- The tree after requests in order. -/
def run (t : Tree) (requests : List Request) : Tree :=
  requests.foldl step t

/-- A tree built from a single node. -/
def Reachable (t : Tree) : Prop :=
  ∃ c requests, t = (single c).run requests

variable {t : Tree} {kids : NodeId → List NodeId} {p c id : NodeId}

/-! ## Requests keep the links together -/

/-- A node just added may become a child of any other. -/
theorem Linked.linkable_add (h : Linked t kids) (hp : p < t.size) (c : Content) :
    Linkable (t.add c).1 p t.size where
  lt_parent := by rw [size_add]; exact Nat.lt_succ_of_lt hp
  lt_child := by rw [size_add]; exact Nat.lt_succ_self _
  ne_root := Nat.ne_of_gt (Nat.zero_lt_of_lt hp)
  detached := by
    rw [parent?_add, parent?, cell?_eq_none.mpr (Nat.le_refl _), Option.bind_none]
  not_above way hw hm :=
    have hold : Follows t.parent? (some p) way := hw.congr fun x _ => (parent?_add t c x).symm
    Nat.lt_irrefl _ (h.lt_of_mem_way hp hold _ hm)

/-- What attaching can do: leave the tree alone and say why, or link the two nodes. -/
theorem attach_cases (t : Tree) (p c : NodeId) :
    (∃ e, t.attach p c = (t, .error e)) ∨ t.attach p c = (t.link p c, .ok ()) := by
  rw [attach]
  split
  · exact .inl ⟨_, rfl⟩
  split
  · exact .inl ⟨_, rfl⟩
  split
  · exact .inl ⟨_, rfl⟩
  split
  · exact .inl ⟨_, rfl⟩
  · exact .inr rfl

/-- A tree on which attaching is refused stays as it was. -/
theorem eq_of_attach_eq_error {t' : Tree} {e : TreeError}
    (ha : t.attach p c = (t', .error e)) : t' = t := by
  rcases t.attach_cases p c with ⟨_, he⟩ | hok
  · rw [he] at ha
    exact (Prod.mk.inj ha).1.symm
  · rw [hok] at ha
    cases ha

/-- When attaching succeeds. -/
theorem attach_eq_ok {t' : Tree} : t.attach p c = (t', .ok ()) ↔
    p < t.size ∧ c < t.size ∧ c ≠ root ∧ t.parent? c = none ∧ t.isAtOrAbove c p = false ∧
      t' = t.link p c := by
  simp only [attach]
  split
  · next hp => simp [Nat.not_lt.mpr hp]
  split
  · next hc => simp [Nat.not_lt.mpr hc]
  split
  · next ha =>
    simp only [Prod.mk.injEq, reduceCtorEq, and_false, false_iff]
    rintro ⟨-, -, hroot, hnone, -⟩
    simp [hroot, hnone] at ha
  · next hp hc ha =>
    rw [not_or, Option.not_isSome_iff_eq_none] at ha
    by_cases hb : t.isAtOrAbove c p <;>
      simp [hb, Nat.not_le.mp hp, Nat.not_le.mp hc, ha.1, ha.2, eq_comm]

theorem Linked.linkable_of_attach (h : Linked t kids) {t' : Tree}
    (ha : t.attach p c = (t', .ok ())) : Linkable t p c ∧ t' = t.link p c := by
  obtain ⟨hp, hc, hroot, hnone, hfree, e⟩ := attach_eq_ok.mp ha
  refine ⟨⟨hp, hc, hroot, hnone, fun way hw hm => ?_⟩, e⟩
  rw [(h.isAtOrAbove_iff hp hw).mpr hm] at hfree
  cases hfree

theorem Linked.step (h : Linked t kids) (r : Request) : ∃ kids', Linked (t.step r) kids' := by
  cases r with
  | add c => exact ⟨kids, h.add c⟩
  | addChild parent c =>
    simp only [Tree.step, addChild]
    split
    · exact ⟨kids, h⟩
    · next hp => exact ⟨_, (h.add c).link (h.linkable_add (Nat.not_le.mp hp) c)⟩
  | attach parent child =>
    rcases t.attach_cases parent child with ⟨e, he⟩ | hok
    · simp only [Tree.step, he]
      exact ⟨kids, h⟩
    · simp only [Tree.step, hok]
      exact ⟨_, h.link (h.linkable_of_attach hok).1⟩

theorem Linked.run : ∀ {t : Tree} {kids : NodeId → List NodeId} (requests : List Request),
    Linked t kids → ∃ kids', Linked (t.run requests) kids'
  | _, kids, [], h => ⟨kids, h⟩
  | _, _, r :: requests, h =>
    have ⟨_, hr⟩ := h.step r
    Linked.run requests hr

/-- The links of a tree that can be built fit together. -/
theorem Reachable.linked (h : t.Reachable) : Linked t t.children := by
  obtain ⟨c, requests, rfl⟩ := h
  obtain ⟨kids, hk⟩ := (Linked.single c).run requests
  exact hk.self

/-! ## Ordered forests -/

/-- The links of a tree make it an ordered forest. -/
structure WellFormed (t : Tree) : Prop where
  /-- Every link leads to a node of the tree. -/
  in_range : ∀ id target, t.parent? id = some target ∨ t.first? id = some target ∨
    t.last? id = some target ∨ t.prev? id = some target ∨ t.next? id = some target →
      target < t.size
  root_top : t.parent? root = none
  /-- The next siblings from the first child on are the children, up to the last child. -/
  forward : ∀ p, Follows t.next? (t.first? p) (t.children p) ∧
    (t.children p).getLast? = t.last? p
  /-- The previous siblings from the last child on are the children in reverse. -/
  backward : ∀ p, Follows t.prev? (t.last? p) (t.children p).reverse
  /-- The children of a node are the nodes with this parent, each of them once. -/
  children : ∀ p, (t.children p).Nodup ∧ ∀ c, c ∈ t.children p ↔ t.parent? c = some p
  /-- A node without a parent has no siblings. -/
  alone : ∀ c, t.parent? c = none → t.prev? c = none ∧ t.next? c = none
  /-- The way up from a node has no cycle, and ends in fewer steps than there are nodes. -/
  upward : ∀ id < t.size, ∃ above, Follows t.parent? (t.parent? id) above ∧
    (id :: above).Nodup ∧ above.length < t.size

namespace Linked

/-- A sibling of a node is in some child list. -/
theorem mem_of_sibling (h : Linked t kids) {c s : NodeId}
    (hs : t.prev? c = some s ∨ t.next? c = some s) : ∃ p, s ∈ kids p := by
  obtain ⟨p, hp⟩ : ∃ p, t.parent? c = some p := by
    refine Option.ne_none_iff_exists'.mp fun e => ?_
    rw [(h.alone e).1, (h.alone e).2] at hs
    rcases hs with hs | hs <;> cases hs
  have hc : c ∈ kids p := h.mem_iff.mpr hp
  refine ⟨p, ?_⟩
  rcases hs with hs | hs
  · exact List.mem_reverse.mp ((h.backward p).mem_of_link (List.mem_reverse.mpr hc) hs)
  · exact (h.forward p).mem_of_link hc hs

theorem link_lt (h : Linked t kids) {target : NodeId}
    (hl : t.parent? id = some target ∨ t.first? id = some target ∨ t.last? id = some target ∨
      t.prev? id = some target ∨ t.next? id = some target) : target < t.size := by
  rcases hl with hl | hl | hl | hl
  · exact h.parent_lt hl
  · exact h.lt_of_mem (List.mem_of_head? (h.first?_eq id ▸ hl))
  · exact h.lt_of_mem (h.mem_of_last? hl)
  · obtain ⟨p, hp⟩ := h.mem_of_sibling hl
    exact h.lt_of_mem hp

theorem wellFormed (h : Linked t kids) : t.WellFormed := by
  refine ⟨fun _ _ => h.link_lt, h.root_top, fun p => ?_, fun p => ?_, fun p => ?_,
    fun _ => h.alone, fun id hid => ?_⟩
  · rw [h.children_eq]
    exact ⟨h.forward p, (h.last?_eq p).symm⟩
  · rw [h.children_eq]
    exact h.backward p
  · rw [h.children_eq]
    exact ⟨h.nodup p, fun c => h.mem_iff⟩
  · obtain ⟨above, ha⟩ := h.upward id
    exact ⟨above, ha, List.nodup_cons.mpr ⟨ha.not_mem, ha.nodup⟩, h.length_above_lt hid ha⟩

end Linked

/-- Whatever the requests and whatever becomes of them, the tree they make is an ordered
forest. -/
theorem wellFormed_run (c : Content) (requests : List Request) :
    ((single c).run requests).WellFormed :=
  have ⟨_, h⟩ := (Linked.single c).run requests
  h.wellFormed

end Hypertext.Tree
