import Hypertext.Proofs.Tree.Chain
import Hypertext.Proofs.Tree.Link

/-!
# Trees whose links fit together

`Linked t kids` says that the five links of every node agree with each other and with `kids`,
the child lists of the tree: the siblings lead through them in both directions, the parents
lead back, and the way up from every node ends. It holds of a single node (`Linked.single`) and
is kept by adding a node (`Linked.add`) and by linking a node without a parent below a node that
it is not above (`Linked.link`).

In a linked tree the walks over the links have fuel enough: they read the child list of a node
from either end (`Linked.children_eq`, `Linked.childrenOnto_eq`) and meet exactly the nodes
above it (`Linked.isAtOrAbove_iff`).
-/

namespace Hypertext.Tree

/-- The links of a tree fit together, and `kids` are its child lists. -/
structure Linked (t : Tree) (kids : NodeId → List NodeId) : Prop where
  /-- The next siblings from the first child on are the children. -/
  forward : ∀ p, Follows t.next? (t.first? p) (kids p)
  /-- The previous siblings from the last child on are the children, last one first. -/
  backward : ∀ p, Follows t.prev? (t.last? p) (kids p).reverse
  /-- The children of a node are the nodes with this parent. -/
  mem_iff : ∀ {p c}, c ∈ kids p ↔ t.parent? c = some p
  /-- A node without a parent has no siblings. -/
  alone : ∀ {c}, t.parent? c = none → t.prev? c = none ∧ t.next? c = none
  root_top : t.parent? root = none
  /-- The way up from a node ends. -/
  upward : ∀ id, ∃ above, Follows t.parent? (t.parent? id) above

variable {t : Tree} {kids : NodeId → List NodeId} {p c id : NodeId}

namespace Linked

theorem single (c : Content) : Linked (single c) fun _ => [] := by
  have h : ∀ id (link : Cell → Option NodeId), link { content := c } = none →
      ((Tree.single c).cell? id).bind link = none := by
    intro id link hl
    cases hc : (Tree.single c).cell? id with
    | none => rfl
    | some cell =>
      obtain rfl : id = 0 := Nat.lt_one_iff.mp (lt_size_of_cell hc)
      obtain rfl : _ = cell := Option.some.inj hc
      exact hl
  have hparent : ∀ id, (Tree.single c).parent? id = none := fun id => h id _ rfl
  exact {
    forward := fun p => h p _ rfl
    backward := fun p => h p _ rfl
    mem_iff := by simp [hparent]
    alone := fun _ => ⟨h _ _ rfl, h _ _ rfl⟩
    root_top := hparent _
    upward := fun id => ⟨[], hparent id⟩ }

theorem last?_eq (h : Linked t kids) (p : NodeId) : t.last? p = (kids p).getLast? := by
  rw [← (h.backward p).head?, List.head?_reverse]

theorem first?_eq (h : Linked t kids) (p : NodeId) : t.first? p = (kids p).head? :=
  (h.forward p).head?.symm

theorem nodup (h : Linked t kids) (p : NodeId) : (kids p).Nodup :=
  (h.forward p).nodup

theorem lt_of_mem (h : Linked t kids) (hc : c ∈ kids p) : c < t.size :=
  lt_size_of_link (h.mem_iff.mp hc)

theorem parent_lt (h : Linked t kids) (hc : t.parent? c = some p) : p < t.size := by
  obtain ⟨first, hf⟩ : ∃ first, t.first? p = some first := by
    rw [h.first?_eq]
    cases e : kids p with
    | nil => rw [← h.mem_iff, e] at hc; cases hc
    | cons first _ => exact ⟨first, rfl⟩
  exact lt_size_of_link hf

/-- The nodes on the way up are nodes of the tree. -/
theorem lt_of_mem_above (h : Linked t kids) {above : List NodeId}
    (ha : Follows t.parent? (t.parent? id) above) : ∀ a ∈ above, a < t.size := by
  intro a hm
  obtain ⟨xs, ys, rfl⟩ := List.append_of_mem hm
  rcases List.eq_nil_or_concat xs with rfl | ⟨xs, x, rfl⟩
  · exact h.parent_lt ha.1
  · rw [List.concat_eq_append, List.append_assoc] at ha
    exact h.parent_lt ha.tail_suffix.1

/-- A way up from a node of the tree stays in the tree. -/
theorem lt_of_mem_way (h : Linked t kids) (hid : id < t.size) {way : List NodeId}
    (hw : Follows t.parent? (some id) way) : ∀ x ∈ way, x < t.size := by
  cases way with
  | nil => exact fun _ hx => absurd hx List.not_mem_nil
  | cons x above =>
    obtain rfl : id = x := Option.some.inj hw.1
    exact List.forall_mem_cons.mpr ⟨hid, h.lt_of_mem_above hw.2⟩

/-- There are fewer nodes above a node than nodes in the tree. -/
theorem length_above_lt (h : Linked t kids) {above : List NodeId} (hid : id < t.size)
    (ha : Follows t.parent? (t.parent? id) above) : above.length < t.size := by
  have hway : Follows t.parent? (some id) (id :: above) := ⟨rfl, ha⟩
  exact hway.length_le (h.lt_of_mem_way hid hway)

/-! ## Growing -/

theorem add (h : Linked t kids) (c : Content) : Linked (t.add c).1 kids where
  forward p := by
    rw [first?_add]
    exact (h.forward p).congr fun id _ => next?_add t c id
  backward p := by
    rw [last?_add]
    exact (h.backward p).congr fun id _ => prev?_add t c id
  mem_iff := by intro p id; rw [parent?_add]; exact h.mem_iff
  alone := by intro id; rw [parent?_add, prev?_add, next?_add]; exact h.alone
  root_top := by rw [parent?_add]; exact h.root_top
  upward id := by
    obtain ⟨above, ha⟩ := h.upward id
    refine ⟨above, ?_⟩
    rw [parent?_add]
    exact ha.congr fun a _ => parent?_add t c a

end Linked

/-! ## Growing by a link -/

/-- The node `c` may become a child of `p`: it is not the root, has no parent, and is not met on
the way up from `p`. -/
structure Linkable (t : Tree) (p c : NodeId) : Prop where
  lt_parent : p < t.size
  lt_child : c < t.size
  ne_root : c ≠ root
  detached : t.parent? c = none
  not_above : ∀ way, Follows t.parent? (some p) way → c ∉ way

/-- The child lists after `c` has become the last child of `p`. -/
def grown (kids : NodeId → List NodeId) (p c : NodeId) : NodeId → List NodeId :=
  fun q => if p = q then kids q ++ [c] else kids q

namespace Linked

/-- A node without a parent is in no child list. -/
theorem ne_of_mem (h : Linked t kids) (hc : t.parent? c = none) {q x : NodeId}
    (hx : x ∈ kids q) : c ≠ x := by
  rintro rfl
  rw [h.mem_iff, hc] at hx
  cases hx

theorem mem_of_last? (h : Linked t kids) {last : NodeId} (hl : t.last? p = some last) :
    last ∈ kids p :=
  List.mem_of_getLast? (h.last?_eq p ▸ hl)

variable (h : Linked t kids) (hl : Linkable t p c)
include h hl

theorem next?_link (id : NodeId) :
    (t.link p c).next? id = if t.last? p = some id then some c else t.next? id :=
  Tree.next?_link (h.alone hl.detached).2 (fun _ e => h.lt_of_mem (h.mem_of_last? e)) id

theorem forward_link (q : NodeId) :
    Follows (t.link p c).next? ((t.link p c).first? q) (grown kids p c q) := by
  rw [first?_link hl.lt_parent, grown]
  by_cases hq : p = q
  · subst hq
    simp only [true_and, if_true, h.last?_eq, List.getLast?_eq_none_iff]
    refine (h.forward p).snoc ?_ (fun x _ hx => ?_) fun x hx => ?_
    · rw [h.next?_link hl, if_neg, (h.alone hl.detached).2]
      exact fun e => h.ne_of_mem hl.detached (h.mem_of_last? e) rfl
    · rw [h.next?_link hl, if_neg (by rwa [h.last?_eq])]
    · rw [h.next?_link hl, if_pos (by rwa [h.last?_eq])]
  · rw [if_neg hq, if_neg fun e => hq e.1]
    refine (h.forward q).congr fun x hx => ?_
    rw [h.next?_link hl, if_neg]
    intro e
    have hp := h.mem_iff.mp (h.mem_of_last? e)
    exact hq (Option.some.inj (hp.symm.trans (h.mem_iff.mp hx)))

theorem backward_link (q : NodeId) :
    Follows (t.link p c).prev? ((t.link p c).last? q) (grown kids p c q).reverse := by
  have hkeep : Follows (t.link p c).prev? (t.last? q) (kids q).reverse :=
    (h.backward q).congr fun x hx => by
      rw [prev?_link hl.lt_child, if_neg (h.ne_of_mem hl.detached (List.mem_reverse.mp hx))]
  rw [last?_link hl.lt_parent, grown]
  by_cases hq : p = q
  · subst hq
    rw [if_pos rfl, if_pos rfl, List.reverse_append, List.reverse_singleton,
      List.singleton_append, follows_cons, prev?_link hl.lt_child, if_pos rfl]
    exact ⟨rfl, hkeep⟩
  · rw [if_neg hq, if_neg hq]
    exact hkeep

theorem mem_grown {q x : NodeId} : x ∈ grown kids p c q ↔ (t.link p c).parent? x = some q := by
  rw [parent?_link hl.lt_child, grown]
  by_cases hx : c = x
  · subst hx
    have hc : c ∉ kids q := fun hm => h.ne_of_mem hl.detached hm rfl
    by_cases hq : p = q <;> simp [hq, hc]
  · rw [if_neg hx, ← h.mem_iff]
    split
    · rw [List.mem_append, List.mem_singleton, or_iff_left (Ne.symm hx)]
    · rfl

theorem alone_link {x : NodeId} (hx : (t.link p c).parent? x = none) :
    (t.link p c).prev? x = none ∧ (t.link p c).next? x = none := by
  rw [parent?_link hl.lt_child] at hx
  split at hx
  · cases hx
  · next e =>
    rw [prev?_link hl.lt_child, if_neg e, h.next?_link hl, if_neg]
    · exact h.alone hx
    · exact fun el => h.ne_of_mem hx (h.mem_of_last? el) rfl

/-- The way up from the new parent does not meet the child, so it stays as it was. -/
theorem upward_link_parent : ∃ way, Follows (t.link p c).parent? (some p) way := by
  obtain ⟨above, ha⟩ := h.upward p
  have hway : Follows t.parent? (some p) (p :: above) := ⟨rfl, ha⟩
  refine ⟨p :: above, hway.congr fun x hx => ?_⟩
  rw [parent?_link hl.lt_child, if_neg]
  rintro rfl
  exact hl.not_above _ hway hx

/-- A way up that met the child ended there; now it goes on to the new parent. -/
theorem upward_link (id : NodeId) :
    ∃ above, Follows (t.link p c).parent? ((t.link p c).parent? id) above := by
  obtain ⟨above, ha⟩ := h.upward id
  obtain ⟨way, hway⟩ := h.upward_link_parent hl
  have hcp : (t.link p c).parent? c = some p := by rw [parent?_link hl.lt_child, if_pos rfl]
  have hkeep : ∀ x, c ≠ x → (t.link p c).parent? x = t.parent? x := fun x hx => by
    rw [parent?_link hl.lt_child, if_neg hx]
  by_cases hid : c = id
  · subst hid
    exact ⟨way, by rwa [hcp]⟩
  rw [hkeep id hid]
  by_cases hm : c ∈ above
  · obtain ⟨xs, ys, rfl⟩ := List.append_of_mem hm
    obtain rfl : ys = [] := follows_none.mp (hl.detached ▸ ha.tail_suffix)
    have hxs : c ∉ xs := fun hx =>
      (List.nodup_append.mp ha.nodup).2.2 c hx c List.mem_cons_self rfl
    refine ⟨xs ++ c :: way, ha.append (fun x hx => hkeep x ?_) (by rwa [hcp])⟩
    rintro rfl
    exact hxs hx
  · refine ⟨above, ha.congr fun x hx => hkeep x ?_⟩
    rintro rfl
    exact hm hx

theorem link : Linked (t.link p c) (grown kids p c) where
  forward := h.forward_link hl
  backward := h.backward_link hl
  mem_iff := h.mem_grown hl
  alone := h.alone_link hl
  root_top := by rw [parent?_link hl.lt_child, if_neg hl.ne_root, h.root_top]
  upward := h.upward_link hl

end Linked

/-! ## Walks over the links -/

theorem siblingsFrom_eq : ∀ {n : Nat} {start : Option NodeId} {ids : List NodeId},
    Follows t.next? start ids → ids.length ≤ n → t.siblingsFrom n start = ids
  | 0, _, _, _, hn => by rw [List.length_eq_zero_iff.mp (Nat.le_zero.mp hn)]; rfl
  | _ + 1, _, [], h, _ => by rw [follows_nil.mp h]; rfl
  | n + 1, _, id :: ids, ⟨e, h⟩, hn => by
    rw [e, siblingsFrom, siblingsFrom_eq h (Nat.le_of_succ_le_succ hn)]

theorem siblingsOnto_eq {keep : NodeId → Bool} : ∀ {n : Nat} {start : Option NodeId}
    {ids : List NodeId} (rest : List NodeId), Follows t.prev? start ids → ids.length ≤ n →
      t.siblingsOnto keep n start rest = ids.reverse.filter keep ++ rest
  | 0, _, _, _, _, hn => by rw [List.length_eq_zero_iff.mp (Nat.le_zero.mp hn)]; rfl
  | _ + 1, _, [], _, h, _ => by rw [follows_nil.mp h]; rfl
  | n + 1, _, id :: ids, rest, ⟨e, h⟩, hn => by
    rw [e, siblingsOnto, siblingsOnto_eq _ h (Nat.le_of_succ_le_succ hn), List.reverse_cons,
      List.filter_append, List.append_assoc]
    by_cases hk : keep id <;> simp [hk]

theorem metAbove_iff {target : NodeId} : ∀ {n : Nat} {start : Option NodeId} {ids : List NodeId},
    Follows t.parent? start ids → ids.length ≤ n → (t.metAbove target n start ↔ target ∈ ids)
  | 0, _, _, _, hn => by rw [List.length_eq_zero_iff.mp (Nat.le_zero.mp hn)]; simp [metAbove]
  | _ + 1, _, [], h, _ => by rw [follows_nil.mp h]; simp [metAbove]
  | n + 1, _, id :: ids, ⟨e, h⟩, hn => by
    rw [e, metAbove, Bool.or_eq_true, metAbove_iff h (Nat.le_of_succ_le_succ hn), beq_iff_eq,
      List.mem_cons, eq_comm]

namespace Linked

theorem length_kids_le (h : Linked t kids) (p : NodeId) : (kids p).length ≤ t.size :=
  length_le_of_nodup (h.nodup p) fun _ => h.lt_of_mem

theorem children_eq (h : Linked t kids) (p : NodeId) : t.children p = kids p :=
  siblingsFrom_eq (h.forward p) (h.length_kids_le p)

theorem children_add (h : Linked t kids) (content : Content) (q : NodeId) :
    (t.add content).1.children q = t.children q := by
  rw [(h.add content).children_eq, h.children_eq]

/-- Linking a child puts it at the end of one child list. -/
theorem children_link (h : Linked t kids) (hl : Linkable t p c) (q : NodeId) :
    (t.link p c).children q = if p = q then t.children q ++ [c] else t.children q := by
  rw [(h.link hl).children_eq, grown, h.children_eq]

theorem childrenOnto_eq (h : Linked t kids) (keep : NodeId → Bool) (p : NodeId)
    (rest : List NodeId) : t.childrenOnto keep p rest = (t.children p).filter keep ++ rest := by
  rw [childrenOnto, siblingsOnto_eq rest (h.backward p) (by simpa using h.length_kids_le p),
    List.reverse_reverse, h.children_eq]

/-- The walk up from a node of the tree meets exactly the nodes on its way up. -/
theorem isAtOrAbove_iff (h : Linked t kids) {target : NodeId} {way : List NodeId}
    (hid : id < t.size) (hway : Follows t.parent? (some id) way) :
    t.isAtOrAbove target id ↔ target ∈ way :=
  metAbove_iff hway (hway.length_le (h.lt_of_mem_way hid hway))

/-- The child lists of a linked tree are the ones that the tree lists itself. -/
theorem self (h : Linked t kids) : Linked t t.children := by
  rwa [funext h.children_eq]

end Linked

end Hypertext.Tree
