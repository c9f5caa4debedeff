import Hypertext.Proofs.Search.Outermost

/-!
# Searches resumed inside their matches

A search does not look below a match. Whoever wants the matches there as well searches the
children of each match while it is handled, and so on (`Search.Emits`). This gives every match
among the nodes that are shown, each once and in order (`Search.emits_start_iff`): when a match is
handed out, the search from its children and the search that goes on behind it have between them
the nodes that were ahead (`Search.shownAhead_cons`).
-/

namespace Hypertext

theorem Test.pure_of {σ : Type} {p : NodeId → Bool} {id : NodeId} {b : Bool} (hp : p id = b)
    (s : σ) : Test.pure p id s = (b, s) := by
  rw [Test.pure, hp]

namespace Search

variable {σ : Type} {t : Tree} {kids : NodeId → List NodeId} {p : NodeId → Bool} {w w' : Search}
  {id : NodeId} {out out' : List NodeId}

/-- Each match of a search is emitted when it is handed out, and then, before the search goes on,
those of the same kind from a search of its children. -/
inductive Emits (t : Tree) (p : NodeId → Bool) : Search → List NodeId → Prop
  | ended {w w' : Search} :
    next? t (Test.pure p) w () = (none, w', ()) → Emits t p w []
  | found {w w' : Search} {id : NodeId} {inside rest : List NodeId} :
    next? t (Test.pure p) w () = (some id, w', ()) →
      Emits t p (below t id) inside → Emits t p w' rest → Emits t p w (id :: (inside ++ rest))

/-- What is emitted is determined by the search. -/
theorem Emits.unique (h : Emits t p w out) (h' : Emits t p w out') : out = out' := by
  induction h generalizing out' with
  | ended hnext =>
    cases h' with
    | ended => rfl
    | found hnext' => rw [hnext] at hnext'; cases hnext'
  | found hnext _ _ ihInside ihRest =>
    cases h' with
    | ended hnext' => rw [hnext] at hnext'; cases hnext'
    | found hnext' hinside hrest =>
      rw [hnext] at hnext'
      cases hnext'
      rw [ihInside hinside, ihRest hrest]

/-- Searches that hand out the same and go on alike emit the same. -/
theorem Emits.of_next?_eq (h : Emits t p w' out)
    (hnext : next? t (Test.pure p) w () = next? t (Test.pure p) w' ()) : Emits t p w out := by
  cases h with
  | ended hends => exact .ended (hnext.trans hends)
  | found hfound hinside hrest => exact .found (hnext.trans hfound) hinside hrest

/-- The nodes ahead of a search that are not below a text. -/
def shownAhead (t : Tree) (w : Search) : List NodeId :=
  w.pending.flatMap t.shown

/-- The node in front is shown, and then what is ahead of the search from its children, and of the
search behind it. -/
theorem shownAhead_cons (h : t.Linked kids) (id : NodeId) (rest : List NodeId) :
    shownAhead t ⟨id :: rest⟩ = id :: (shownAhead t (below t id) ++ shownAhead t ⟨rest⟩) := by
  have hshown : t.shown id = id :: shownAhead t (below t id) := by
    rw [shownAhead, pending_below h, Tree.shown, h.reached_rose]
    split <;> rfl
  rw [shownAhead, List.flatMap_cons, hshown, List.cons_append]
  rfl

theorem shownAhead_append (t : Tree) (xs ys : List NodeId) :
    shownAhead t ⟨xs ++ ys⟩ = shownAhead t ⟨xs⟩ ++ shownAhead t ⟨ys⟩ :=
  List.flatMap_append

/-- The matches ahead are emitted. By induction on the number of nodes ahead, which is less for the
search of the children of the node in front, for the search behind it, and for both together. -/
theorem emits_shownAhead (h : t.Linked kids) (p : NodeId → Bool) (w : Search)
    (hle : (ahead t w).length ≤ t.size) : Emits t p w ((shownAhead t w).filter p) := by
  induction hn : (ahead t w).length using Nat.strongRecOn generalizing w with
  | ind n ih =>
    obtain ⟨_ | ⟨id, rest⟩⟩ := w
    · exact .ended (next?_nil t _ ())
    · have hlt := length_ahead_below_lt h id rest
      have hsum : (ahead t ⟨(below t id).pending ++ rest⟩).length =
          (ahead t (below t id)).length + (ahead t ⟨rest⟩).length := length_ahead_append t _ rest
      rw [shownAhead_cons h]
      cases hp : p id with
      | true =>
        have hinside := ih _ (by omega) (below t id) (by omega) rfl
        have hrest := ih _ (by omega) ⟨rest⟩ (by omega) rfl
        rw [List.filter_cons_of_pos hp, List.filter_append]
        exact .found (next?_hit t (Test.pure_of hp ()) rest) hinside hrest
      | false =>
        have hboth := ih _ (by omega) ⟨(below t id).pending ++ rest⟩ (by omega) rfl
        rw [shownAhead_append] at hboth
        rw [List.filter_cons_of_neg (by rw [hp]; exact Bool.false_ne_true)]
        exact hboth.of_next?_eq (next?_miss h (Test.pure_of hp ()) hle)

/-- A search that begins at a match hands out this match alone, and any other one hands out what the
search from the children does. -/
theorem take_start (h : t.Linked kids) (p : NodeId → Bool) (id : NodeId) (n : Nat) (s : σ) :
    (take t (Test.pure p) n (start id) s).1 =
      if p id then [id].take n else (take t (Test.pure p) n (below t id) s).1 := by
  cases n with
  | zero => rw [List.take_zero, take, take, ite_self]
  | succ n =>
    cases hp : p id with
    | true =>
      rw [start, take_hit t (Test.pure_of hp s), take_nil, if_pos rfl, List.take_succ_cons,
        List.take_nil]
    | false =>
      rw [start, take_miss h (Test.pure_of hp s) n (length_ahead_start_le h id), List.append_nil,
        if_neg Bool.false_ne_true]

/-- Resumed inside its matches, a search from a node comes to an end, and emits exactly the nodes
that are shown and satisfy `p`, each once and in order. Of the searches that this takes, the one
from the node itself hands out the node if it is a match, and else what the one from its children
does. -/
theorem emits_start_iff {t : Tree} (ht : t.Reachable) (p : NodeId → Bool) (id : NodeId) :
    t.Lists id ((t.shown id).filter p)
      (fun m => (∀ a, t.StrictlyAbove id a m → ¬ t.isText a) ∧ p m) ∧
    (∀ out, Emits t p (start id) out ↔ out = (t.shown id).filter p) ∧
    ∀ (σ : Type) (n : Nat) (s : σ), (take t (Test.pure p) n (start id) s).1 =
      if p id then [id].take n else (take t (Test.pure p) n (below t id) s).1 := by
  have h := ht.linked
  have hemits : Emits t p (start id) ((t.shown id).filter p) := by
    have hahead := emits_shownAhead h p (start id) (length_ahead_start_le h id)
    rwa [shownAhead, start, List.flatMap_singleton] at hahead
  refine ⟨(h.lists_reached t.isText id).filter p, fun out => ⟨fun hout => hout.unique hemits, ?_⟩,
    fun _ => take_start h p id⟩
  rintro rfl
  exact hemits

/-- Every node but the document and one below a text: the list is found, in it the items, and in
these their texts. The search alone hands out the list only. -/
theorem emits_twoItems : twoItems.Reachable ∧
    (∀ out, Emits twoItems (· ≥ 1) (start Tree.root) out ↔ out = [1, 2, 3, 5, 6]) ∧
    ∀ n, (take twoItems (Test.pure (· ≥ 1)) (n + 1) (start 1) ()).1 = [1] := by
  have ht : twoItems.Reachable := ⟨_, _, rfl⟩
  obtain ⟨-, hemits, -⟩ := emits_start_iff ht (· ≥ 1) Tree.root
  obtain ⟨-, -, htake⟩ := emits_start_iff ht (· ≥ 1) 1
  refine ⟨ht, fun out => (hemits out).trans ?_, fun n => (htake Unit (n + 1) ()).trans ?_⟩
  · rw [show (twoItems.shown Tree.root).filter (· ≥ 1) = [1, 2, 3, 5, 6] by decide +kernel]
  · rw [if_pos (by decide), List.take_succ_cons, List.take_nil]

end Search

end Hypertext
