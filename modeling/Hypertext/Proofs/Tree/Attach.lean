import Hypertext.Proofs.Tree.Reachable
import Mathlib.Logic.Relation

/-!
# Attaching

What attaching one node below another answers, said in terms of child lists and descendants
(`attach_answers`): it refuses nodes outside the tree, a node that already has its place, and a
node below which the new parent stands; a refused request changes nothing, and a granted one
changes one child list by one node at its end.

The tree itself looks at parents. `Linked.mem_way_iff` turns the nodes above into descendants,
and `Linked.placed_iff` the parent of a node into the child list that holds it.
-/

namespace Hypertext.Tree

variable {t : Tree} {kids : NodeId → List NodeId} {parent child id : NodeId}

/-- The node `id` is `top`, or one of its descendants. -/
def AtOrBelow (t : Tree) (top id : NodeId) : Prop :=
  Relation.ReflTransGen (fun p c => c ∈ t.children p) top id

/-- The node has its place in the tree: it is the root, or a child of some node. -/
def Placed (t : Tree) (id : NodeId) : Prop :=
  id = root ∨ ∃ p, id ∈ t.children p

theorem Linked.placed_iff (h : Linked t kids) :
    t.Placed id ↔ id = root ∨ (t.parent? id).isSome := by
  refine or_congr_right ?_
  rw [Option.isSome_iff_exists]
  exact exists_congr fun p => by rw [h.children_eq, h.mem_iff]

/-- The nodes on the way up are those that the way starts below. -/
theorem Linked.mem_way_iff (h : Linked t kids) {top : NodeId} : ∀ {way : List NodeId}
    {id : NodeId}, Follows t.parent? (some id) way → (top ∈ way ↔ t.AtOrBelow top id)
  | [], _, hw => absurd (follows_nil.mp hw) (Option.some_ne_none _)
  | x :: above, id, ⟨e, ha⟩ => by
    obtain rfl : id = x := Option.some.inj e
    rw [AtOrBelow, Relation.ReflTransGen.cases_tail_iff, List.mem_cons]
    refine or_congr ⟨Eq.symm, Eq.symm⟩ ⟨fun hm => ?_, fun ⟨p, hp, hc⟩ => ?_⟩
    · cases hp : t.parent? id with
      | none => rw [hp, follows_none] at ha; rw [ha] at hm; cases hm
      | some p =>
        rw [hp] at ha
        exact ⟨p, (h.mem_way_iff ha).mp hm, by rw [h.children_eq, h.mem_iff, hp]⟩
    · rw [h.children_eq, h.mem_iff] at hc
      rw [hc] at ha
      exact (h.mem_way_iff ha).mpr hp

theorem Linked.isAtOrAbove_iff_atOrBelow (h : Linked t kids) {top : NodeId} (hid : id < t.size) :
    t.isAtOrAbove top id ↔ t.AtOrBelow top id := by
  obtain ⟨above, ha⟩ := h.upward id
  have hw : Follows t.parent? (some id) (id :: above) := ⟨rfl, ha⟩
  rw [h.isAtOrAbove_iff hid hw, h.mem_way_iff hw]

/-- Attaching, with its tests said in terms of child lists. -/
theorem Linked.attach_eq (h : Linked t kids) [Decidable (t.Placed child)]
    [Decidable (t.AtOrBelow child parent)] (hp : parent < t.size) (hc : child < t.size) :
    t.attach parent child =
      if t.Placed child then (t, .error (.alreadyAttached child))
      else if t.AtOrBelow child parent then (t, .error (.cycle child))
      else (t.link parent child, .ok ()) := by
  rw [attach, if_neg (Nat.not_le.mpr hp), if_neg (Nat.not_le.mpr hc)]
  simp only [h.placed_iff, h.isAtOrAbove_iff_atOrBelow hp]

/-- What a granted request changes: one child list, by one node at its end. -/
theorem Linked.attach_ok (h : Linked t kids) {t' : Tree}
    (ha : t.attach parent child = (t', .ok ())) :
    t'.children parent = t.children parent ++ [child] ∧
      (∀ q, q ≠ parent → t'.children q = t.children q) ∧
      (∀ id, t'.content? id = t.content? id) ∧ t'.size = t.size := by
  obtain ⟨hl, rfl⟩ := h.linkable_of_attach ha
  refine ⟨?_, fun q hq => ?_, content?_link t parent child, size_link t parent child⟩
  · rw [h.children_link hl, if_pos rfl]
  · rw [h.children_link hl, if_neg (Ne.symm hq)]

/-- What attaching answers, and what it leaves of the tree. -/
theorem attach_answers (ht : t.Reachable) (parent child : NodeId) :
    (t.size ≤ parent → (t.attach parent child).2 = .error (.unknownNode parent)) ∧
    (parent < t.size → t.size ≤ child →
      (t.attach parent child).2 = .error (.unknownNode child)) ∧
    (parent < t.size → child < t.size →
      ((t.attach parent child).2 = .error (.alreadyAttached child) ↔ t.Placed child) ∧
      ((t.attach parent child).2 = .error (.cycle child) ↔
        ¬ t.Placed child ∧ t.AtOrBelow child parent) ∧
      ((t.attach parent child).2 = .ok () ↔
        ¬ t.Placed child ∧ ¬ t.AtOrBelow child parent)) ∧
    (∀ t' e, t.attach parent child = (t', .error e) → t' = t) ∧
    (∀ t', t.attach parent child = (t', .ok ()) →
      t'.children parent = t.children parent ++ [child] ∧
      (∀ q, q ≠ parent → t'.children q = t.children q) ∧
      (∀ id, t'.content? id = t.content? id) ∧ t'.size = t.size) := by
  classical
  have h := ht.linked
  refine ⟨fun hp => ?_, fun hp hc => ?_, fun hp hc => ?_, fun t' e => eq_of_attach_eq_error,
    fun t' ha => h.attach_ok ha⟩
  · rw [attach, if_pos hp]
  · rw [attach, if_neg (Nat.not_le.mpr hp), if_pos hc]
  · rw [h.attach_eq hp hc]
    by_cases hplaced : t.Placed child
    · simp [hplaced]
    · by_cases hbelow : t.AtOrBelow child parent <;> simp [hplaced, hbelow]

/-- A document, and a list with one item that is attached nowhere. -/
def looseList : Tree :=
  (single .document).run
    [.add (.element (.named "ul" [])), .addChild 1 (.element (.named "li" []))]

/-- The list can be put into the document, but not into its own item. -/
theorem attach_looseList : looseList.Reachable ∧
    (looseList.attach 2 1).2 = .error (.cycle 1) ∧
    ∃ t', looseList.attach 0 1 = (t', .ok ()) ∧ t'.children 0 = [1] ∧ t'.children 1 = [2] := by
  have ht : looseList.Reachable := ⟨_, _, rfl⟩
  have hplaced : ¬ looseList.Placed 1 := by
    rw [ht.linked.placed_iff]
    decide +kernel
  have hitem : looseList.AtOrBelow 1 2 := .single (by decide +kernel)
  have hroot : ¬ looseList.AtOrBelow 1 0 := by
    rw [← ht.linked.isAtOrAbove_iff_atOrBelow (by decide)]
    decide +kernel
  obtain ⟨-, -, hcycle, -, -⟩ := attach_answers ht 2 1
  obtain ⟨-, -, hok, -, hframe⟩ := attach_answers ht 0 1
  refine ⟨ht, (hcycle (by decide) (by decide)).2.1.mpr ⟨hplaced, hitem⟩, ?_⟩
  have ha := (hok (by decide) (by decide)).2.2.mpr ⟨hplaced, hroot⟩
  obtain ⟨hlast, hrest, -, -⟩ := hframe _ (Prod.ext rfl ha)
  refine ⟨_, Prod.ext rfl ha, ?_, ?_⟩
  · rw [hlast]
    decide +kernel
  · rw [hrest 1 (by decide)]
    decide +kernel

end Hypertext.Tree
