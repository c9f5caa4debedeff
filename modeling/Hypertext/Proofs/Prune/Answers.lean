import Hypertext.Proofs.Prune.Pruned
import Hypertext.Proofs.Tree.Reached

/-!
# What pruning asks and answers

Pruning gives no tree exactly when the node itself is dropped, and else the arena of the pruned
tree (`prune_answers`). The test may have a state; it is put to the nodes that have no dropped
node strictly above them, to each once and in the order of reading, and what stays is what it
has not accepted.

`Test.recorded` keeps a record of the answers, and `Rose.Asks` says what is in the record after
a tree was pruned. As no node occurs twice, the answers might as well come from a test without
a state (`Asks.stateless`), and the nodes that are asked are those met on a walk that stops at
the accepted ones.
-/

namespace Hypertext

/-- The test with a record of the nodes that it was put to and of its answers, in order. -/
def Test.recorded {σ : Type} (p : Test σ) : Test (σ × List (NodeId × Bool)) :=
  fun id (s, calls) => ((p id s).1, (p id s).2, calls ++ [(id, (p id s).1)])

namespace Rose

variable {σ : Type} {drop : Test σ} {r : Rose NodeId} {rest below : List (Rose NodeId)}
  {id : NodeId} {s s' : σ} {calls calls' : List (NodeId × Bool)}

/-- The nodes met on a walk that stops at the accepted ones, with the answers. -/
def answered (accepted : NodeId → Bool) (rs : List (Rose NodeId)) : List (NodeId × Bool) :=
  (rs.flatMap (reached accepted)).map fun id => (id, accepted id)

theorem answered_cons (accepted : NodeId → Bool) (r : Rose NodeId) (rest : List (Rose NodeId)) :
    answered accepted (r :: rest) = answered accepted [r] ++ answered accepted rest := by
  rw [answered, List.flatMap_cons, List.map_append, answered, List.flatMap_singleton, answered]

theorem answered_congr {accepted accepted' : NodeId → Bool} {rs : List (Rose NodeId)}
    (h : ∀ id ∈ rs.flatMap toList, accepted id = accepted' id) :
    answered accepted rs = answered accepted' rs := by
  have hmem : ∀ r ∈ rs, ∀ id ∈ r.toList, accepted id = accepted' id := fun r hr id hid =>
    h id (List.mem_flatMap.mpr ⟨r, hr, hid⟩)
  rw [answered, answered, List.flatMap_congr fun r hr => reached_congr r (hmem r hr)]
  refine List.map_congr_left fun id hid => ?_
  obtain ⟨r, hr, hid⟩ := List.mem_flatMap.mp hid
  rw [hmem r hr id ((reached_sublist accepted' r).subset hid)]

/-- What is put to the nodes of a tree when it is pruned, with the answers. -/
structure Asks (drop : Test σ) (r : Rose NodeId) (s : σ) (calls : List (NodeId × Bool)) :
    Prop where
  recorded : ∀ before, r.prune drop.recorded (s, before) =
    ((r.prune drop s).1, (r.prune drop s).2, before ++ calls)
  kept : (r.prune drop s).1.toList.flatMap toList = (calls.filter (!·.2)).map Prod.fst
  stateless : r.toList.Nodup → ∃ accepted, calls = answered accepted [r]

/-- What is put to the nodes of trees in order. -/
structure AsksAll (drop : Test σ) (rs : List (Rose NodeId)) (s : σ)
    (calls : List (NodeId × Bool)) : Prop where
  recorded : ∀ before, pruneAll drop.recorded rs (s, before) =
    ((pruneAll drop rs s).1, (pruneAll drop rs s).2, before ++ calls)
  kept : (pruneAll drop rs s).1.flatMap toList = (calls.filter (!·.2)).map Prod.fst
  stateless : (rs.flatMap toList).Nodup → ∃ accepted, calls = answered accepted rs

theorem AsksAll.nil (drop : Test σ) (s : σ) : AsksAll drop [] s [] where
  recorded before := by rw [pruneAll, pruneAll, List.append_nil]
  kept := rfl
  stateless _ := ⟨fun _ => true, rfl⟩

theorem AsksAll.cons (h : Asks drop r s calls)
    (h' : AsksAll drop rest (r.prune drop s).2 calls') :
    AsksAll drop (r :: rest) s (calls ++ calls') where
  recorded before := by
    simp only [pruneAll, h.recorded, h'.recorded, List.append_assoc]
  kept := by
    simp only [pruneAll, List.flatMap_append, h.kept, h'.kept, List.filter_append,
      List.map_append]
  stateless hnodup := by
    rw [List.flatMap_cons, List.nodup_append] at hnodup
    obtain ⟨hr, hrest, hdisjoint⟩ := hnodup
    obtain ⟨accepted, e⟩ := h.stateless hr
    obtain ⟨accepted', e'⟩ := h'.stateless hrest
    -- The answers in the first tree by one test, and those in the others by the other.
    refine ⟨fun id => if id ∈ r.toList then accepted id else accepted' id, ?_⟩
    rw [answered_cons, e, e']
    congr 1
    · refine answered_congr fun id hid => ?_
      rw [List.flatMap_singleton] at hid
      rw [if_pos hid]
    · refine answered_congr fun id hid => ?_
      rw [if_neg fun hmem => hdisjoint id hmem id hid rfl]

theorem Asks.of_dropped (hd : drop id s = (true, s')) (below : List (Rose NodeId)) :
    Asks drop (.node id below) s [(id, true)] where
  recorded before := by
    have hrecorded : drop.recorded id (s, before) = (true, s', before ++ [(id, true)]) := by
      rw [Test.recorded, hd]
    rw [prune_of_dropped hd, prune_of_dropped hrecorded]
  kept := by rw [prune_of_dropped hd]; rfl
  stateless _ := ⟨fun _ => true, by rw [answered, List.flatMap_singleton, reached_node]; rfl⟩

theorem Asks.of_kept (hd : drop id s = (false, s')) (h : AsksAll drop below s' calls) :
    Asks drop (.node id below) s ((id, false) :: calls) where
  recorded before := by
    have hrecorded : drop.recorded id (s, before) = (false, s', before ++ [(id, false)]) := by
      rw [Test.recorded, hd]
    rw [prune_of_kept hd, prune_of_kept hrecorded, h.recorded, List.append_assoc]
    rfl
  kept := by
    rw [prune_of_kept hd, Option.toList_some, List.flatMap_singleton, toList_node, h.kept]
    rfl
  stateless hnodup := by
    rw [toList_node, List.nodup_cons] at hnodup
    obtain ⟨accepted, rfl⟩ := h.stateless hnodup.2
    refine ⟨fun x => if x = id then false else accepted x, ?_⟩
    have hbelow : answered accepted below =
        answered (fun x => if x = id then false else accepted x) below :=
      answered_congr fun x hx => by
        have hne : x ≠ id := by
          rintro rfl
          exact hnodup.1 hx
        exact (if_neg hne).symm
    rw [hbelow, answered, answered, List.flatMap_singleton, reached_node]
    simp

theorem exists_asksAll : ∀ (rs : List (Rose NodeId)) (s : σ),
    (∀ r ∈ rs, ∀ s, ∃ calls, Asks drop r s calls) → ∃ calls, AsksAll drop rs s calls
  | [], s, _ => ⟨[], .nil drop s⟩
  | r :: rest, s, h => by
    obtain ⟨calls, hr⟩ := h r List.mem_cons_self s
    obtain ⟨calls', hrest⟩ := exists_asksAll rest (r.prune drop s).2 fun x hx =>
      h x (List.mem_cons_of_mem r hx)
    exact ⟨calls ++ calls', .cons hr hrest⟩

theorem exists_asks (drop : Test σ) (r : Rose NodeId) (s : σ) :
    ∃ calls, Asks drop r s calls := by
  induction r generalizing s with
  | node id below ih =>
    obtain ⟨b, s', hd⟩ : ∃ b s', drop id s = (b, s') := ⟨_, _, rfl⟩
    cases b with
    | true => exact ⟨_, .of_dropped hd below⟩
    | false =>
      obtain ⟨calls, h⟩ := exists_asksAll below s' ih
      exact ⟨_, .of_kept hd h⟩

end Rose

namespace Tree

variable {σ : Type} {t : Tree} {kids : NodeId → List NodeId} {id a x : NodeId}
  {accepted : NodeId → Bool}

/-- Two nodes that are above each other are the same. -/
theorem Linked.atOrBelow_antisymm (h : Linked t kids) (hax : t.AtOrBelow a x)
    (hxa : t.AtOrBelow x a) : a = x := by
  by_contra hne
  exact h.not_strictlyAbove_self ⟨hxa, hax, hne⟩

theorem mem_answered : (a, true) ∈ Rose.answered accepted [t.rose id] ↔
    a ∈ (t.rose id).reached accepted ∧ accepted a := by
  rw [Rose.answered, List.flatMap_singleton, List.mem_map]
  constructor
  · rintro ⟨b, hb, e⟩
    obtain ⟨rfl, hacc⟩ := Prod.mk.inj e
    exact ⟨hb, hacc⟩
  · rintro ⟨ha, hacc⟩
    exact ⟨a, ha, by rw [hacc]⟩

/-- At or above an accepted node there is one that was asked and accepted. -/
theorem Linked.exists_answered (h : Linked t kids) (hx : t.AtOrBelow id x)
    (hacc : accepted x) : ∃ a, t.AtOrBelow id a ∧ t.AtOrBelow a x ∧
      (a, true) ∈ Rose.answered accepted [t.rose id] := by
  obtain ⟨a, ha, hacc, hax⟩ := h.exists_stop_above accepted hx hacc
  exact ⟨a, (h.mem_reached.mp ha).1, hax, mem_answered.mpr ⟨ha, hacc⟩⟩

/-- The nodes that are asked have no dropped node strictly above them. -/
theorem Linked.lists_asked (h : Linked t kids) (accepted : NodeId → Bool) (id : NodeId) :
    t.Lists id ((Rose.answered accepted [t.rose id]).map Prod.fst) fun x =>
      ∀ a, t.StrictlyAbove id a x → (a, true) ∉ Rose.answered accepted [t.rose id] := by
  have hfst : (Rose.answered accepted [t.rose id]).map Prod.fst =
      (t.rose id).reached accepted := by
    rw [Rose.answered, List.flatMap_singleton, List.map_map]
    exact List.map_id _
  rw [hfst]
  refine (h.lists_reached accepted id).congr fun x _ => ⟨fun hfree a ha hcall => ?_,
    fun hfree a ⟨hida, hax, hne⟩ hacc => ?_⟩
  · exact hfree a ha (mem_answered.mp hcall).2
  · obtain ⟨b, hidb, hba, hcall⟩ := h.exists_answered hida hacc
    refine hfree b ⟨hidb, hba.trans hax, ?_⟩ hcall
    rintro rfl
    exact hne (h.atOrBelow_antisymm hax hba)

/-- The nodes that stay have no dropped node above them, and are not dropped themselves. -/
theorem Linked.lists_kept (h : Linked t kids) (accepted : NodeId → Bool) (id : NodeId) :
    t.Lists id (((Rose.answered accepted [t.rose id]).filter (!·.2)).map Prod.fst) fun x =>
      ∀ a, t.AtOrBelow id a → t.AtOrBelow a x →
        (a, true) ∉ Rose.answered accepted [t.rose id] := by
  have hfst : ((Rose.answered accepted [t.rose id]).filter (!·.2)).map Prod.fst =
      ((t.rose id).reached accepted).filter (!accepted ·) := by
    rw [Rose.answered, List.flatMap_singleton, List.filter_map, List.map_map]
    exact List.map_id _
  rw [hfst]
  refine ((h.lists_reached accepted id).filter (!accepted ·)).congr fun x hx =>
    ⟨fun ⟨hfree, hx⟩ a hida hax hcall => ?_, fun hfree => ⟨fun a ⟨hida, hax, _⟩ hacc => ?_, ?_⟩⟩
  · have hacc := (mem_answered.mp hcall).2
    by_cases e : a = x
    · rw [← e, hacc] at hx
      cases hx
    · exact hfree a ⟨hida, hax, e⟩ hacc
  · obtain ⟨b, hidb, hba, hcall⟩ := h.exists_answered hida hacc
    exact hfree b hidb (hba.trans hax) hcall
  · by_contra hacc
    obtain ⟨b, hidb, hbx, hcall⟩ := h.exists_answered hx (by simpa using hacc)
    exact hfree b hidb hbx hcall

/-- Pruning from a node on: nothing is left exactly when the node is dropped, and else the copy
is the arena of the pruned tree, numbered in the order of reading, with nothing detached and
nothing beside its root. The test is put to the nodes without a dropped node strictly above them,
to each once and in the order of reading, and the nodes without a dropped node at or above them
stay. -/
theorem prune_answers (ht : t.Reachable) (hid : id < t.size) (drop : Test σ) (s : σ) :
    ((t.prune drop id s).1 = none ↔ (drop id s).1 = true) ∧
    (t.prune drop id s).2 = ((t.rose id).prune drop s).2 ∧
    ∃ calls,
      t.prune drop.recorded id (s, []) =
        ((t.prune drop id s).1, (t.prune drop id s).2, calls) ∧
      t.Lists id (calls.map Prod.fst)
        (fun x => ∀ a, t.StrictlyAbove id a x → (a, true) ∉ calls) ∧
      ∀ copy, (t.prune drop id s).1 = some copy →
        ∃ kept, ((t.rose id).prune drop s).1 = some kept ∧
          copy.shape root = kept.map t.contentAt ∧
          t.Lists id kept.toList
            (fun x => ∀ a, t.AtOrBelow id a → t.AtOrBelow a x → (a, true) ∉ calls) ∧
          copy.WellFormed ∧ copy.Compact ∧
          copy.parent? root = none ∧ copy.prev? root = none ∧ copy.next? root = none := by
  have h := ht.linked
  obtain ⟨calls, hasks⟩ := Rose.exists_asks drop (t.rose id) s
  obtain ⟨accepted, rfl⟩ := hasks.stateless (h.nodup_rose id)
  have hvalue : (t.rose id).value = id := by rw [h.rose_eq]; rfl
  rw [h.prune_eq hid drop.recorded, h.prune_eq hid drop, hasks.recorded, List.nil_append]
  refine ⟨?_, rfl, _, rfl, h.lists_asked accepted id, fun copy hcopy => ?_⟩
  · rw [Option.map_eq_none_iff, Rose.prune_eq_none_iff, hvalue]
  · obtain ⟨kept, hkept, rfl⟩ := Option.map_eq_some_iff.mp hcopy
    have hwell := (reachable_ofRose (kept.map t.contentAt)).linked.wellFormed
    have hlists := h.lists_kept accepted id
    rw [← hasks.kept, hkept, Option.toList_some, List.flatMap_singleton] at hlists
    exact ⟨kept, hkept, shape_ofRose _, hlists, hwell, compact_ofRose _, hwell.root_top,
      hwell.alone root hwell.root_top⟩

/-- A list of two items with a text in each of them, and a text behind the list. -/
def itemsThenText : Tree :=
  (single .document).run
    [.addChild 0 (.element (.named "ul" [])), .addChild 0 (.text "end"),
      .addChild 1 (.element (.named "li" [])), .addChild 1 (.element (.named "li" [])),
      .addChild 4 (.text "two"), .addChild 3 (.text "one")]

/-- A test that accepts what it is asked about for the third time: here the first item, so that
its text is not asked about. The copy is numbered afresh. -/
theorem prune_itemsThenText : itemsThenText.Reachable ∧ ∃ calls copy,
    itemsThenText.prune (Test.recorded fun _ n => (n == 2, n + 1)) root (0, []) =
      (some copy, 6, calls) ∧
    calls = [(0, false), (1, false), (3, true), (4, false), (5, false), (2, false)] ∧
    copy.Compact ∧ copy.size = 5 := by
  have ht : itemsThenText.Reachable := ⟨_, _, rfl⟩
  obtain ⟨hnone, -, calls, hcalls, -, hcopy⟩ :=
    prune_answers ht (by decide : root < itemsThenText.size) (fun _ n => (n == 2, n + 1)) 0
  cases hp : (itemsThenText.prune (fun _ n => (n == 2, n + 1)) root 0).1 with
  | none => exact absurd (hnone.mp hp) (by decide)
  | some copy =>
    obtain ⟨-, -, -, -, -, hcompact, -⟩ := hcopy copy hp
    have hsome : some copy = (itemsThenText.prune (fun _ n => (n == 2, n + 1)) root 0).1 :=
      hp.symm
    rw [hp] at hcalls
    refine ⟨ht, calls, copy, ?_, ?_, hcompact, ?_⟩
    · rw [hcalls]
      exact congrArg (fun n => (some copy, n, calls)) (by decide +kernel)
    · have hlog := congrArg (·.2.2) hcalls
      exact hlog.symm.trans (by decide +kernel)
    · have hsize := congrArg (Option.map size) hsome
      exact Option.some.inj (hsize.trans (by decide +kernel))

end Tree

end Hypertext
