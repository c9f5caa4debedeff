import Mathlib.Algebra.Ring.Nat
import Hypertext.Proofs.Search.Calls
import Hypertext.Proofs.Prune.Stateless

/-!
# Where pruning cuts

Pruning goes below every node that it keeps, and a search below every node that is no match and no
text. Where texts have nothing below them, that is the same: what is cut off are the subtrees at the
nodes that a search hands out, and both put the same questions in the same order
(`Tree.prune_cuts_found`).

* `Rose.prune_of_records`: pruning makes the calls of a search for which no value is a leaf,
  whatever the state of the test.
* `Linked.calls_eq_of_bare`, `Linked.outermost_eq_of_bare`: it is no matter whether a search goes
  below nodes that have nothing below them.
* `Linked.perm_kept_append`: what is kept and what is cut off make up the tree. Both what is missing
  and the sizes are read off from it.
-/

namespace Hypertext

namespace Rose

variable {α σ τ : Type} {p : α → σ → Bool × σ} {q : α → τ → Bool × τ}
  {view : σ → List (Call α σ) → τ}

/-- What is kept are the values met on a walk that stops where it cuts, less those where it does
stop. -/
theorem toList_without (p : α → Bool) (r : Rose α) :
    (r.without p).toList.flatMap toList = (r.reached p).filter (!p ·) := by
  induction r with
  | node value below ih =>
    rw [without_node, reached_node]
    by_cases hp : p value
    · simp [hp]
    · rw [if_neg hp, if_neg hp, Option.toList_some, List.flatMap_singleton, toList_node,
        List.filter_cons_of_pos (by simp [hp]), List.filter_flatMap,
        List.filterMap_eq_flatMap_toList, List.flatMap_assoc, List.flatMap_congr ih]

theorem callsAll_congr {leaf leaf' : α → Bool} : ∀ (rs : List (Rose α)) (s : σ),
    (∀ r ∈ rs, ∀ s, r.calls leaf p s = r.calls leaf' p s) →
      callsAll leaf p rs s = callsAll leaf' p rs s
  | [], _, _ => rfl
  | r :: rest, s, h => by
    rw [callsAll, callsAll, h r List.mem_cons_self,
      callsAll_congr rest _ fun x hx => h x (List.mem_cons_of_mem r hx)]

/-- The calls of pruning `r`, by the state that they lead to and by what a test records of them. -/
def PruneCalls (p : α → σ → Bool × σ) (q : α → τ → Bool × τ) (view : σ → List (Call α σ) → τ)
    (r : Rose α) (made : σ → List (Call α σ)) : Prop :=
  ∀ s before, (r.prune p s).2 = Call.stateAfter s (made s) ∧
    r.prune q (view s before) = ((r.prune p s).1, view (r.prune p s).2 (before ++ made s))

theorem pruneAll_of_records : ∀ (rs : List (Rose α)) (s : σ) (before : List (Call α σ)),
    (∀ r ∈ rs, PruneCalls p q view r (r.calls (fun _ => false) p)) →
    (pruneAll p rs s).2 = Call.stateAfter s (callsAll (fun _ => false) p rs s) ∧
    pruneAll q rs (view s before) = ((pruneAll p rs s).1,
      view (pruneAll p rs s).2 (before ++ callsAll (fun _ => false) p rs s))
  | [], s, before, _ => ⟨rfl, by rw [pruneAll, pruneAll, callsAll, List.append_nil]⟩
  | r :: rest, s, before, h => by
    obtain ⟨hstate, hr⟩ := h r List.mem_cons_self s before
    obtain ⟨hstates, hrest⟩ := pruneAll_of_records rest (r.prune p s).2
      (before ++ r.calls (fun _ => false) p s) fun x hx => h x (List.mem_cons_of_mem r hx)
    simp only [pruneAll, callsAll, hr, hrest, ← hstate, List.append_assoc,
      Call.stateAfter_append, hstates, and_self]

/-- Pruning makes the calls of a search for which no value is a leaf. -/
theorem prune_of_records (hq : Records p view q) (r : Rose α) :
    PruneCalls p q view r (r.calls (fun _ => false) p) := by
  induction r with
  | node value below ih =>
    intro s before
    have hrecord := hq value s before
    obtain ⟨b, s', hp⟩ : ∃ b s', p value s = (b, s') := ⟨_, _, rfl⟩
    have hcall : Call.of p value s = ⟨value, s, b, s'⟩ := by rw [Call.of, hp]
    rw [hp, hcall] at hrecord
    rw [calls, hp, hcall]
    cases b with
    | true =>
      rw [prune_of_dropped hp, prune_of_dropped hrecord]
      exact ⟨rfl, rfl⟩
    | false =>
      obtain ⟨hstate, hbelow⟩ :=
        pruneAll_of_records below s' (before ++ [⟨value, s, false, s'⟩]) ih
      rw [prune_of_kept hp, prune_of_kept hrecord, hbelow, List.append_assoc]
      exact ⟨hstate, rfl⟩

end Rose

namespace Tree

variable {σ : Type} {t : Tree} {kids : NodeId → List NodeId} {id : NodeId}

namespace Linked

/-- A search makes the same calls if it goes below texts, when there is nothing below them. -/
theorem calls_eq_of_bare (h : Linked t kids) (hbare : ∀ x, t.isText x → t.children x = [])
    (p : Test σ) (id : NodeId) (s : σ) :
    (t.rose id).calls t.isText p s = (t.rose id).calls (fun _ => false) p s := by
  induction id using h.induction generalizing s with
  | step id ih =>
    rw [h.rose_eq, Rose.calls, Rose.calls]
    by_cases htext : t.isText id
    · rw [hbare id htext, List.map_nil, Rose.callsAll, Rose.callsAll, ite_self, ite_self]
    · have hbelow : ∀ r ∈ (t.children id).map t.rose, ∀ s,
          r.calls t.isText p s = r.calls (fun _ => false) p s := by
        intro r hr
        obtain ⟨c, hc, rfl⟩ := List.mem_map.mp hr
        exact ih c hc
      rw [Bool.eq_false_iff.mpr htext, Rose.callsAll_congr _ _ hbelow]

/-- It finds the same as well: of the nodes met on a walk that stops at matches, the matches. -/
theorem outermost_eq_of_bare (h : Linked t kids) (hbare : ∀ x, t.isText x → t.children x = [])
    (p : NodeId → Bool) (id : NodeId) :
    (t.rose id).outermost t.isText p = ((t.rose id).reached p).filter p := by
  suffices hreached : (t.rose id).reached (fun a => p a || t.isText a) = (t.rose id).reached p by
    rw [Rose.outermost, hreached]
  induction id using h.induction with
  | step id ih =>
    rw [h.reached_rose, h.reached_rose]
    by_cases htext : t.isText id
    · rw [hbare id htext, List.flatMap_nil, List.flatMap_nil, ite_self, ite_self]
    · rw [Bool.eq_false_iff.mpr htext, Bool.or_false, List.flatMap_congr ih]

/-- The nodes that are kept, and those of the subtrees at the nodes where the walk stops, are the
nodes of the tree. -/
theorem perm_kept_append (h : Linked t kids) (p : NodeId → Bool) (id : NodeId) :
    (((t.rose id).reached p).filter (!p ·) ++
      (((t.rose id).reached p).filter p).flatMap fun m => (t.rose m).toList).Perm
        (t.rose id).toList := by
  induction id using h.induction with
  | step id ih =>
    rw [h.reached_rose]
    by_cases hp : p id
    · simp [hp]
    · have hbelow := List.Perm.flatMap_left (t.children id) ih
      rw [if_neg hp, List.filter_cons_of_pos (by simp [hp]), List.filter_cons_of_neg hp,
        List.filter_flatMap, List.filter_flatMap, List.flatMap_assoc, List.cons_append,
        h.toList_rose]
      exact .cons id ((List.flatMap_append_perm _ _ _).trans hbelow)

end Linked

/-! ## Pruning and searching -/

theorem size_ofRose (r : Rose Content) : (ofRose r).size = r.toList.length := calc
  (ofRose r).size = ((ofRose r).rose root).toList.length := by
    rw [compact_ofRose r, List.length_range]
  _ = ((ofRose r).shape root).toList.length := by
    rw [shape, Rose.toList_map, List.length_map]
  _ = r.toList.length := by
    rw [shape_ofRose]

/-- The nodes at and below `id` that pruning keeps. -/
def keptBy (t : Tree) (p : NodeId → Bool) (id : NodeId) : List NodeId :=
  ((t.rose id).without p).toList.flatMap Rose.toList

/-- Pruned from `id` on by a test without a state, the tree lacks the subtrees at the nodes `found`,
and these are what a search from `id` hands out. Both make the calls `calls`. -/
structure CutsAlike (t : Tree) (p : NodeId → Bool) (id : NodeId) (s : σ) (found : List NodeId)
    (calls : List (Call NodeId σ)) : Prop where
  pulled : ∀ n, (Search.take t (Test.pure p) n (Search.start id) s).1 = found.take n
  copied : (t.prune (Test.pure p) id s).1 =
    ((t.rose id).without p).map fun kept => ofRose (kept.map t.contentAt)
  missing : ∀ x, t.AtOrBelow id x → (x ∉ t.keptBy p id ↔ ∃ m ∈ found, t.AtOrBelow m x)
  /-- What is cut off makes up the size, where no copy has the size zero. -/
  size_add : (t.prune (Test.pure p) id s).1.elim 0 size +
    (found.map fun m => (t.rose m).toList.length).sum = (t.rose id).toList.length
  /-- Pruning makes the calls, and leaves the state as it was. -/
  pruned : t.prune (Test.pure p).traced id (s, []) = ((t.prune (Test.pure p) id s).1, s, calls)
  /-- So does a search, when it is pulled until there is nothing more. -/
  searched : ∀ n, found.length < n →
    (Search.take t (Test.pure p).traced n (Search.start id) (s, [])).1 = found ∧
    (Search.take t (Test.pure p).traced n (Search.start id) (s, [])).2.2 = (s, calls)

theorem keptBy_eq (t : Tree) (p : NodeId → Bool) (id : NodeId) :
    t.keptBy p id = ((t.rose id).reached p).filter (!p ·) :=
  Rose.toList_without p (t.rose id)

namespace Linked

/-- What is not kept is at or below a node where the walk stops, as no node occurs twice. -/
theorem not_mem_keptBy_iff (h : Linked t kids) (p : NodeId → Bool) {x : NodeId}
    (hx : t.AtOrBelow id x) :
    x ∉ t.keptBy p id ↔ ∃ m ∈ ((t.rose id).reached p).filter p, t.AtOrBelow m x := by
  have hperm := h.perm_kept_append p id
  have hdisjoint := List.disjoint_of_nodup_append (hperm.nodup_iff.mpr (h.nodup_rose id))
  have hmem := hperm.mem_iff.mpr (h.mem_rose.mpr hx)
  have hcut : x ∈ (((t.rose id).reached p).filter p).flatMap (fun m => (t.rose m).toList) ↔
      ∃ m ∈ ((t.rose id).reached p).filter p, t.AtOrBelow m x := by
    simp only [List.mem_flatMap, h.mem_rose]
  rw [keptBy_eq, ← hcut]
  exact ⟨(List.mem_append.mp hmem).resolve_left, fun hc hk => hdisjoint hk hc⟩

/-- A copy has as many nodes as are kept. -/
theorem size_prune (h : Linked t kids) (hid : id < t.size) (p : NodeId → Bool) (s : σ) :
    (t.prune (Test.pure p) id s).1.elim 0 size = (t.keptBy p id).length := by
  rw [h.prune_pure_eq hid, keptBy]
  cases (t.rose id).without p with
  | none => rfl
  | some kept =>
    rw [Option.map_some, Option.elim_some, size_ofRose, Rose.toList_map, List.length_map,
      Option.toList_some, List.flatMap_singleton]

/-- The calls of pruning, whether or not the test has a state. -/
theorem prune_traced (h : Linked t kids) (hid : id < t.size) (drop : Test σ) (s : σ) :
    t.prune drop.traced id (s, []) = ((t.prune drop id s).1, (t.prune drop id s).2,
      (t.rose id).calls (fun _ => false) drop s) := by
  obtain ⟨-, htraced⟩ := Rose.prune_of_records drop.records_traced (t.rose id) s []
  rw [h.prune_eq hid drop.traced, h.prune_eq hid drop, htraced, List.nil_append]

/-- A search makes the calls of pruning, as far as it is pulled. -/
theorem isLazy_of_bare (h : Linked t kids) (hbare : ∀ x, t.isText x → t.children x = [])
    (p : Test σ) (id : NodeId) (s : σ) :
    Search.IsLazy t p (Search.start id) s ((t.rose id).calls (fun _ => false) p s) := by
  have hlazy := Search.isLazy_of_pending h p (Search.length_ahead_start_le h id) s
  rw [List.map_singleton, Rose.callsAll, Rose.callsAll, List.append_nil,
    h.calls_eq_of_bare hbare] at hlazy
  exact hlazy

/-- Without a state, it hands out the nodes where a walk that stops at matches does stop. -/
theorem take_of_bare (h : Linked t kids) (hbare : ∀ x, t.isText x → t.children x = [])
    (p : NodeId → Bool) (id : NodeId) (n : Nat) (s : σ) :
    (Search.take t (Test.pure p) n (Search.start id) s).1 =
        (((t.rose id).reached p).filter p).take n ∧
      (Search.take t (Test.pure p) n (Search.start id) s).2.2 = s := by
  have hsearch : (t.rose id).search t.isText (Test.pure p) n s = _ :=
    Rose.search_pure t.isText p (t.rose id) n s
  obtain ⟨hfound, hstate⟩ := Search.take_start_eq_search h (Test.pure p) id n s
  rw [hfound, hstate, hsearch, h.outermost_eq_of_bare hbare]
  exact ⟨rfl, rfl⟩

end Linked

/-- Where texts have nothing below them, pruning and searching by a test without a state cut at the
same nodes and make the same calls. -/
theorem prune_cuts_found (ht : t.Reachable) (hid : id < t.size)
    (hbare : ∀ x, t.isText x → t.children x = []) (p : NodeId → Bool) (s : σ) :
    ∃ found calls, t.CutsAlike p id s found calls := by
  have h := ht.linked
  have hprune := h.prune_pure_eq hid p s
  have hlazy := h.isLazy_of_bare hbare (Test.pure p) id s
  refine ⟨((t.rose id).reached p).filter p, (t.rose id).calls (fun _ => false) (Test.pure p) s, {
    pulled := fun n => (h.take_of_bare hbare p id n s).1
    copied := congrArg Prod.fst hprune
    missing := fun x hx => h.not_mem_keptBy_iff p hx
    size_add := ?_
    pruned := ?_
    searched := fun n hn => ?_ }⟩
  · rw [h.size_prune hid, keptBy_eq, ← List.length_flatMap, ← List.length_append]
    exact (h.perm_kept_append p id).length_eq
  · rw [h.prune_traced hid, hprune]
  · obtain ⟨hfound, hstate⟩ := h.take_of_bare hbare p id n s
    rw [List.take_of_length_le (Nat.le_of_lt hn)] at hfound
    -- The search has ended, so it has made all its calls.
    have hall := Call.upTo_of_length_lt ((hlazy.ends n).mp (by rwa [hfound]))
    obtain ⟨hfound', hstate'⟩ := hlazy.pulled n
    obtain ⟨htraced, hcalls⟩ := hlazy.traced n
    rw [hall] at hfound' hstate' htraced hcalls
    exact ⟨htraced.trans (hfound'.symm.trans hfound), by rw [hcalls, ← hstate', hstate]⟩

/-- The first item and the text behind the list are cut off, with the text in the item: of seven
nodes four are kept. The search and pruning ask about all but the text in the item. -/
theorem prune_cuts_itemsThenText : itemsThenText.Reachable ∧
    itemsThenText.keptBy (fun x => x ∈ [2, 3, 6]) root = [0, 1, 4, 5] ∧
    ∃ found calls,
      itemsThenText.CutsAlike (fun x => x ∈ [2, 3, 6]) root () found calls ∧
      found = [3, 2] ∧ calls.map Call.value = [0, 1, 3, 4, 5, 2] := by
  have ht : itemsThenText.Reachable := ⟨_, _, rfl⟩
  have hsmall : ∀ x < itemsThenText.size,
      itemsThenText.isText x → itemsThenText.children x = [] := by
    decide +kernel
  have hbare : ∀ x, itemsThenText.isText x → itemsThenText.children x = [] := by
    intro x htext
    rcases Nat.lt_or_ge x itemsThenText.size with hx | hx
    · exact hsmall x hx htext
    · exact ht.linked.children_eq_nil_of_le hx
  obtain ⟨found, calls, hcuts⟩ := prune_cuts_found ht (by decide : root < itemsThenText.size)
    hbare (fun x => x ∈ [2, 3, 6]) ()
  refine ⟨ht, by decide +kernel, found, calls, hcuts, ?_, ?_⟩
  · have hseven : found.take 7 = [3, 2] := (hcuts.pulled 7).symm.trans (by decide +kernel)
    have hlength := congrArg List.length hseven
    rw [List.length_take, List.length_cons, List.length_singleton] at hlength
    rw [← hseven, List.take_of_length_le (by omega)]
  · have hcalls := congrArg (·.2.2.map Call.value) hcuts.pruned
    exact hcalls.symm.trans (by decide +kernel)

end Tree

end Hypertext
