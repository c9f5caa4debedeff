import Hypertext.Proofs.Loop.Traversal
import Hypertext.Proofs.Search.Outermost

/-!
# What a walk hands out

A walk hands out the node where it begins, and then the nodes below it that are neither text nor
below a text, each once and in order (`Walk.take_eq_walked`). It leaves out texts as soon as their
siblings become pending; that this comes to the same as to read on and to skip texts is
`Linked.flatMap_filter_walked`.

A walk may be left and taken up again at any point: a pull moves the first of the nodes ahead of
it to those that it has handed out (`Walk.ahead_next?`).
-/

namespace Hypertext

namespace Tree

variable {t : Tree} {kids : NodeId → List NodeId} {id : NodeId}

/-- The nodes that a walk goes on to behind `id`: of the nodes that are shown below it, those that
are not text. -/
def walkedBelow (t : Tree) (id : NodeId) : List NodeId :=
  (t.shown id).tail.filter (!t.isText ·)

theorem Linked.shown_eq (h : Linked t kids) (id : NodeId) :
    t.shown id = id :: if t.isText id then [] else (t.children id).flatMap t.shown :=
  h.reached_rose t.isText id

/-- Texts may be left out among some nodes, or afterwards among the nodes that are shown at and
below them. -/
theorem Linked.flatMap_filter_walked (h : Linked t kids) : ∀ ids : List NodeId,
    (ids.filter (!t.isText ·)).flatMap (fun c => c :: t.walkedBelow c) =
      (ids.flatMap t.shown).filter (!t.isText ·)
  | [] => rfl
  | id :: ids => by
    have ih := h.flatMap_filter_walked ids
    rw [List.flatMap_cons, List.filter_append, ← ih]
    by_cases htext : t.isText id
    · have hnone : (t.shown id).filter (!t.isText ·) = [] := by
        rw [h.shown_eq, if_pos htext]
        simp [htext]
      rw [hnone, List.filter_cons_of_neg (by simp [htext]), List.nil_append]
    · have hsome : (t.shown id).filter (!t.isText ·) = id :: t.walkedBelow id := by
        rw [walkedBelow, h.shown_eq, List.filter_cons_of_pos (by simp [htext]), List.tail_cons]
      rw [hsome, List.filter_cons_of_pos (by simp [htext]), List.flatMap_cons]

theorem Linked.walkedBelow_eq (h : Linked t kids) (id : NodeId) : t.walkedBelow id =
    if t.isText id then []
    else ((t.children id).filter (!t.isText ·)).flatMap fun c => c :: t.walkedBelow c := by
  rw [walkedBelow, h.shown_eq, List.tail_cons, h.flatMap_filter_walked]
  split <;> rfl

/-- A walk goes on to the nodes that are neither text nor below a text. -/
theorem Linked.lists_walkedBelow (h : Linked t kids) (id : NodeId) :
    t.Lists id (t.walkedBelow id) fun x =>
      x ≠ id ∧ ¬ t.isText x ∧ ∀ a, t.StrictlyAbove id a x → ¬ t.isText a := by
  have hlists := h.lists_reached t.isText id
  have hshown : t.shown id = id :: (t.shown id).tail := by rw [h.shown_eq, List.tail_cons]
  have hnodup : id ∉ (t.shown id).tail := by
    have hcons : (id :: (t.shown id).tail).Nodup := hshown ▸ hlists.nodup
    exact (List.nodup_cons.mp hcons).1
  have htail : ∀ x, x ∈ (t.shown id).tail ↔ x ∈ t.shown id ∧ x ≠ id := fun x => by
    rw [hshown, List.mem_cons, List.tail_cons]
    constructor
    · intro hx
      refine ⟨.inr hx, ?_⟩
      rintro rfl
      exact hnodup hx
    · rintro ⟨rfl | hx, hne⟩
      · exact absurd rfl hne
      · exact hx
  have hsublist : (t.walkedBelow id).Sublist (t.shown id) :=
    List.filter_sublist.trans (List.tail_sublist _)
  refine ⟨hsublist.trans hlists.in_order, hlists.nodup.sublist hsublist, fun x => ?_⟩
  rw [walkedBelow, List.mem_filter, htail, shown, hlists.mem_iff]
  simp only [Bool.not_eq_true', Bool.not_eq_true]
  tauto

end Tree

namespace Walk

variable {t : Tree} {kids : NodeId → List NodeId} {w : Walk}

/-- The nodes that a walk has still to hand out. -/
def ahead (t : Tree) (w : Walk) : List NodeId :=
  w.pending.flatMap fun id => id :: t.walkedBelow id

theorem ahead_start (t : Tree) (id : NodeId) : ahead t (start id) = id :: t.walkedBelow id :=
  List.flatMap_singleton _ _

/-- A pull hands out the first of the nodes ahead, and the others stay ahead. -/
theorem ahead_next? (h : t.Linked kids) (w : Walk) : match next? t w with
    | none => ahead t w = []
    | some (id, w') => ahead t w = id :: ahead t w' := by
  obtain ⟨_ | ⟨id, rest⟩⟩ := w
  · rfl
  · rw [next?_cons h]
    simp only [ahead, List.flatMap_append, List.flatMap_cons, h.walkedBelow_eq id]
    split <;> rfl

/-- Pulls hand out the first nodes ahead, and the others stay ahead. -/
theorem take_ahead (h : t.Linked kids) : ∀ (n : Nat) (w : Walk),
    (take t n w).1 = (ahead t w).take n ∧ ahead t (take t n w).2 = (ahead t w).drop n
  | 0, _ => ⟨List.take_zero.symm, rfl⟩
  | n + 1, w => by
    have hnext := ahead_next? h w
    cases e : next? t w with
    | none =>
      rw [e] at hnext
      simp only [take, e, hnext, List.take_nil, List.drop_nil, and_self]
    | some pulled =>
      obtain ⟨id, w'⟩ := pulled
      rw [e] at hnext
      obtain ⟨hfound, hleft⟩ := take_ahead h n w'
      simp only [take, e, hnext, hfound, hleft, List.take_succ_cons, List.drop_succ_cons, and_self]

/-- A pull finds nothing exactly when nothing is ahead. -/
theorem next?_eq_none_iff (h : t.Linked kids) : next? t w = none ↔ ahead t w = [] := by
  have hnext := ahead_next? h w
  cases e : next? t w with
  | none => exact iff_of_true rfl (by rwa [e] at hnext)
  | some pulled =>
    rw [e] at hnext
    exact iff_of_false (Option.some_ne_none _) (by rw [hnext]; exact List.cons_ne_nil _ _)

/-- A walk hands out the node where it begins, whatever this holds, and then the nodes below it
that are neither text nor below a text, each once and in order. Left after `k` pulls and taken up
again, it goes on with the nodes that are left, and when there are none it stays at its end. From a
text it goes nowhere. -/
theorem take_eq_walked {t : Tree} (ht : t.Reachable) (id : NodeId) : ∃ below,
    t.Lists id below
      (fun x => x ≠ id ∧ ¬ t.isText x ∧ ∀ a, t.StrictlyAbove id a x → ¬ t.isText a) ∧
    (∀ k, (take t k (start id)).1 = (id :: below).take k) ∧
    (∀ k n, (take t n (take t k (start id)).2).1 = ((id :: below).drop k).take n) ∧
    (∀ k n, (id :: below).length ≤ k + n →
      (take t k (start id)).1 ++ (take t n (take t k (start id)).2).1 = id :: below) ∧
    (∀ k, next? t (take t k (start id)).2 = none ↔ (id :: below).length ≤ k) ∧
    (t.isText id → below = []) := by
  have h := ht.linked
  have hfirst : ∀ k, (take t k (start id)).1 = (id :: t.walkedBelow id).take k := fun k => by
    rw [(take_ahead h k _).1, ahead_start]
  have hleft : ∀ k, ahead t (take t k (start id)).2 = (id :: t.walkedBelow id).drop k := fun k => by
    rw [(take_ahead h k _).2, ahead_start]
  have hrest : ∀ k n, (take t n (take t k (start id)).2).1 =
      ((id :: t.walkedBelow id).drop k).take n := fun k n => by
    rw [(take_ahead h n _).1, hleft]
  refine ⟨t.walkedBelow id, h.lists_walkedBelow id, hfirst, hrest, fun k n hle => ?_,
    fun k => ?_, fun htext => ?_⟩
  · have hall : ((id :: t.walkedBelow id).drop k).length ≤ n := by
      rw [List.length_drop]
      omega
    rw [hfirst, hrest, List.take_of_length_le hall, List.take_append_drop]
  · rw [next?_eq_none_iff h, hleft, List.drop_eq_nil_iff]
  · rw [h.walkedBelow_eq, if_pos htext]

/-- Of the two items with a text each, only the items are met; what stands below the text of the
first one is not met either. From this text the walk goes nowhere. -/
theorem take_walked_twoItems : Search.twoItems.Reachable ∧
    (∀ n, (take Search.twoItems (n + 4) (start Tree.root)).1 = [0, 1, 2, 5]) ∧
    (take Search.twoItems 2 (take Search.twoItems 2 (start Tree.root)).2).1 = [2, 5] ∧
    ∀ n, (take Search.twoItems (n + 1) (start 3)).1 = [3] := by
  have ht : Search.twoItems.Reachable := ⟨_, _, rfl⟩
  obtain ⟨below, -, htake, hrest, -, hend, -⟩ := take_eq_walked ht Tree.root
  obtain ⟨belowText, -, htakeText, -, -, -, hnone⟩ := take_eq_walked ht 3
  have hlength : (Tree.root :: below).length ≤ 4 := (hend 4).mp (by decide +kernel)
  have hall : Tree.root :: below = [0, 1, 2, 5] := by
    rw [← List.take_of_length_le hlength]
    exact (htake 4).symm.trans (by decide +kernel)
  refine ⟨ht, fun n => ?_, ?_, fun n => ?_⟩
  · rw [htake, List.take_of_length_le (Nat.le_trans hlength (Nat.le_add_left 4 n)), hall]
  · rw [hrest, hall]
    rfl
  · rw [htakeText, hnone (by decide +kernel), List.take_succ_cons, List.take_nil]

end Walk

end Hypertext
