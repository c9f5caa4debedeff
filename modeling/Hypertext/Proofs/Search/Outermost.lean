import Hypertext.Proofs.Search.Pull
import Hypertext.Proofs.Tree.Reached

/-!
# Outermost matches

Without a state, a search hands out the outermost matches that are not below a text
(`take_eq_outermost`): the stops of a walk that stops at matches and at texts, less the texts
that are no matches (`Rose.search_pure`).

No match that is handed out is above another one, and every match that is not below a text is at
or below exactly one of them (`Linked.existsUnique_outermost`).
-/

namespace Hypertext

namespace Rose

variable {α σ : Type} {leaf p : α → Bool}

/-- The values that satisfy `p` and are not below another one, or below a leaf. -/
def outermost (leaf p : α → Bool) (r : Rose α) : List α :=
  (r.reached fun a => p a || leaf a).filter p

theorem outermost_node (value : α) (below : List (Rose α)) :
    (node value below).outermost leaf p =
      if p value then [value] else if leaf value then [] else below.flatMap (outermost leaf p) := by
  rw [outermost, reached_node]
  by_cases hp : p value
  · simp [hp]
  · by_cases hl : leaf value
    · simp [hp, hl]
    · simp only [hp, hl, Bool.or_false, Bool.false_eq_true, if_false, List.filter_cons,
        List.filter_flatMap]
      rfl

/-- Up to `n` matches in trees in order, if there are so many in each of them. -/
theorem searchAll_pure (s : σ) : ∀ (rs : List (Rose α)) (n : Nat),
    (∀ r ∈ rs, ∀ n, r.search leaf (fun a s => (p a, s)) n s = ((r.outermost leaf p).take n, s)) →
      searchAll leaf (fun a s => (p a, s)) rs n s =
        ((rs.flatMap (outermost leaf p)).take n, s)
  | [], n, _ => by rw [searchAll, List.flatMap_nil, List.take_nil]
  | r :: rest, n, h => by
    have hr := h r List.mem_cons_self n
    have hrest := searchAll_pure s rest (n - ((r.outermost leaf p).take n).length)
      fun x hx => h x (List.mem_cons_of_mem r hx)
    have hlength : n - ((r.outermost leaf p).take n).length =
        n - (r.outermost leaf p).length := by
      rw [List.length_take]
      omega
    rw [searchAll, hr]
    simp only [hrest]
    rw [hlength, List.flatMap_cons, List.take_append]

/-- Without a state, the recursion collects the outermost matches. -/
theorem search_pure (leaf p : α → Bool) (r : Rose α) (n : Nat) (s : σ) :
    r.search leaf (fun a s => (p a, s)) n s = ((r.outermost leaf p).take n, s) := by
  induction r generalizing n with
  | node value below ih =>
    rw [search, outermost_node]
    cases n with
    | zero => rw [if_pos rfl, List.take_zero]
    | succ n =>
      rw [if_neg (Nat.succ_ne_zero n)]
      by_cases hp : p value
      · simp [hp]
      · by_cases hl : leaf value
        · simp [hp, hl]
        · simp only [hp, hl, Bool.false_eq_true, if_false]
          exact searchAll_pure s below (n + 1) ih

end Rose

namespace Tree.Linked

variable {t : Tree} {kids : NodeId → List NodeId} {p : NodeId → Bool} {id m m' : NodeId}

/-- The outermost matches in the tree at and below a node, each once and in order. -/
theorem lists_outermost (h : Linked t kids) (p : NodeId → Bool) (id : NodeId) :
    t.Lists id ((t.rose id).outermost t.isText p)
      fun m => p m ∧ ∀ a, t.StrictlyAbove id a m → ¬ p a ∧ ¬ t.isText a := by
  refine ((h.lists_reached (fun a => p a || t.isText a) id).filter p).congr fun m _ => ?_
  simp only [Bool.or_eq_true, not_or]
  exact and_comm

/-- No outermost match is above another one. -/
theorem eq_of_outermost (h : Linked t kids) (hm : m ∈ (t.rose id).outermost t.isText p)
    (hm' : m' ∈ (t.rose id).outermost t.isText p) (hbelow : t.AtOrBelow m m') : m = m' := by
  obtain ⟨hreached, hp⟩ := List.mem_filter.mp hm
  obtain ⟨hreached', -⟩ := List.mem_filter.mp hm'
  refine h.eq_of_stop hreached ?_ hreached' hbelow
  rw [hp, Bool.true_or]

/-- A match that is not below a text is at or below exactly one outermost match. -/
theorem existsUnique_outermost (h : Linked t kids) (hm : t.AtOrBelow id m) (hp : p m)
    (htext : ∀ a, t.StrictlyAbove id a m → ¬ t.isText a) :
    ∃! y, y ∈ (t.rose id).outermost t.isText p ∧ t.AtOrBelow y m := by
  obtain ⟨y, hreached, hstop, hym⟩ :=
    h.exists_stop_above (fun a => p a || t.isText a) hm (by rw [hp, Bool.true_or])
  have hpy : p y := by
    -- A text that is no match itself would be strictly above the match.
    by_contra hpy
    have hne : y ≠ m := fun e => hpy (e ▸ hp)
    have hidy := (h.mem_reached.mp hreached).1
    exact htext y ⟨hidy, hym, hne⟩ (by simpa [hpy] using hstop)
  have hy := List.mem_filter.mpr ⟨hreached, hpy⟩
  refine ⟨y, ⟨hy, hym⟩, fun z ⟨hz, hzm⟩ => ?_⟩
  rcases h.atOrBelow_total hzm hym with hzy | hyz
  · exact h.eq_of_outermost hz hy hzy
  · exact (h.eq_of_outermost hy hz hyz).symm

end Tree.Linked

namespace Search

variable {σ : Type}

/-- A search with a test that has no state hands out the outermost matches that are not below a
text, and then nothing is pending. None of them is above another one, and every match that is
not below a text is at or below exactly one of them. -/
theorem take_eq_outermost {t : Tree} (ht : t.Reachable) (p : NodeId → Bool) (id : NodeId)
    (s : σ) : ∃ found,
      (∀ n, (take t (Test.pure p) n (start id) s).1 = found.take n) ∧
      (∀ n, found.length < n → (take t (Test.pure p) n (start id) s).2.1.pending = []) ∧
      t.Lists id found
        (fun m => p m ∧ ∀ a, t.StrictlyAbove id a m → ¬ p a ∧ ¬ t.isText a) ∧
      (∀ m ∈ found, ∀ m' ∈ found, t.AtOrBelow m m' → m = m') ∧
      ∀ m, t.AtOrBelow id m → p m → (∀ a, t.StrictlyAbove id a m → ¬ t.isText a) →
        ∃! y, y ∈ found ∧ t.AtOrBelow y m := by
  have h := ht.linked
  have htake : ∀ n, (take t (Test.pure p) n (start id) s).1 =
      ((t.rose id).outermost t.isText p).take n := by
    intro n
    have hsearch := Rose.search_pure t.isText p (t.rose id) n s
    exact (take_start_eq_search h (Test.pure p) id n s).1.trans (congrArg Prod.fst hsearch)
  refine ⟨_, htake, fun n hn => ?_, h.lists_outermost p id, fun m hm m' hm' => ?_,
    fun m hm hp htext => ?_⟩
  · refine pending_take_of_lt h n (start id) s (length_ahead_start_le h id) ?_
    rw [htake, List.length_take]
    omega
  · exact h.eq_of_outermost hm hm'
  · exact h.existsUnique_outermost hm hp htext

/-- A list of two items; below the text of the first there is a further element, and below the
second there is one more text. -/
def twoItems : Tree :=
  (Tree.single .document).run
    [.addChild 0 (.element (.named "ul" [])), .addChild 1 (.element (.named "li" [])),
      .addChild 2 (.text "one"), .addChild 3 (.element (.named "b" [])),
      .addChild 1 (.element (.named "li" [])), .addChild 5 (.text "two")]

/-- Of the element below a text, the second item and its text, only the item is handed out. -/
theorem take_twoItems : twoItems.Reachable ∧ ∀ n,
    (take twoItems (Test.pure fun id => id ≥ 4) (n + 1) (start Tree.root) ()).1 = [5] ∧
      (take twoItems (Test.pure fun id => id ≥ 4) (n + 2) (start Tree.root) ()).2.1.pending =
        [] := by
  have ht : twoItems.Reachable := ⟨_, _, rfl⟩
  obtain ⟨found, htake, hend, -, -, -⟩ :=
    take_eq_outermost ht (fun id => id ≥ 4) Tree.root ()
  have hseven : found.take 7 = [5] := (htake 7).symm.trans (by decide +kernel)
  have hfound : found = [5] := by
    have hlength := congrArg List.length hseven
    rw [List.length_take, List.length_singleton] at hlength
    rw [← hseven, List.take_of_length_le (by omega)]
  refine ⟨ht, fun n => ⟨?_, hend (n + 2) ?_⟩⟩
  · rw [htake, hfound, List.take_of_length_le (by simp)]
  · rw [hfound, List.length_singleton]
    omega

end Search

end Hypertext
