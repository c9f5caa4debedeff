import Mathlib.Data.List.Flatten
import Hypertext.Proofs.Loop.Basic
import Hypertext.Proofs.Search.Pull
import Hypertext.Prune

/-!
# The loops of walks, searches and pruning

The loops over the nodes of a tree that have one task for each node. A node that is taken makes
way for some of its children, so the nodes at and below it make way for some of those, in order
(`Linked.cons_sublist_rose`). Hence these loops end, and meet no node twice (`Tree.MeetsOnce`).

* `Walk.exists_pulls`, `Search.exists_pulls`: however often a walk or a search is pulled.
* `Tree.exists_pruneEnds`: when a tree is pruned.
-/

namespace Hypertext

variable {σ : Type} {t : Tree} {kids : NodeId → List NodeId} {id : NodeId} {n : Nat}

namespace Tree

/-- These nodes are met at and below `id` in the order of reading, and none of them twice. -/
structure MeetsOnce (t : Tree) (id : NodeId) (ids : List NodeId) : Prop where
  in_order : ids.Sublist (t.rose id).toList
  nodup : ids.Nodup
  length_le : ids.length ≤ t.size

theorem Linked.meetsOnce (h : Linked t kids) {ids : List NodeId}
    (hids : ids.Sublist (t.rose id).toList) : t.MeetsOnce id ids where
  in_order := hids
  nodup := (h.nodup_rose id).sublist hids
  length_le := Nat.le_trans hids.length_le (h.length_rose_le id)

/-- If tasks together read no node twice, what one of them reads is read for no other. -/
theorem MeetsOnce.not_mem_reads {τ : Type} {reads : τ → List NodeId} {before after : List τ}
    {task : τ} {x : NodeId} (h : t.MeetsOnce id ((before ++ task :: after).flatMap reads))
    (hx : x ∈ reads task) : ∀ other ∈ before ++ after, x ∉ reads other := by
  intro other hother hread
  have hnodup := h.nodup
  rw [List.flatMap_append, List.flatMap_cons] at hnodup
  obtain ⟨-, hbehind, hbefore⟩ := List.nodup_append.mp hnodup
  obtain ⟨-, -, hafter⟩ := List.nodup_append.mp hbehind
  rcases List.mem_append.mp hother with hother | hother
  · have hmem : x ∈ before.flatMap reads := List.mem_flatMap.mpr ⟨other, hother, hread⟩
    exact hbefore x hmem x (List.mem_append_left _ hx) rfl
  · have hmem : x ∈ after.flatMap reads := List.mem_flatMap.mpr ⟨other, hother, hread⟩
    exact hafter x hx x hmem rfl

/-- A node, and the nodes at and below some of its children. -/
theorem Linked.cons_sublist_rose (h : Linked t kids) {ids : List NodeId}
    (hids : ids.Sublist (t.children id)) :
    (id :: ids.flatMap fun c => (t.rose c).toList).Sublist (t.rose id).toList := by
  rw [h.toList_rose]
  exact (hids.flatMap _).cons_cons id

end Tree

/-! ## Walks -/

namespace Walk

/-- The loop of a walk: each node is handed out when it is taken. -/
def loop (t : Tree) : Loop NodeId Unit (Option NodeId × Unit) where
  round id s :=
    .stop (if t.isText id then [] else (t.children id).filter (!t.isText ·)) (some id, s)
  finish s := (none, s)

theorem next?_cons (h : t.Linked kids) (id : NodeId) (rest : List NodeId) :
    next? t ⟨id :: rest⟩ = some (id, ⟨(if t.isText id then []
      else (t.children id).filter (!t.isText ·)) ++ rest⟩) := by
  simp only [next?, h.childrenOnto_eq]
  split <;> rfl

/-- What is pulled from a walk is what its loop hands out. -/
theorem take_eq (h : t.Linked kids) {pending taken found left : List NodeId} {s s' : Unit}
    (hpulls : (loop t).Pulls n pending s taken found left s') :
    take t n ⟨pending⟩ = (found, ⟨left⟩) ∧ taken = found := by
  induction hpulls with
  | enough pending s => exact ⟨rfl, rfl⟩
  | last n hends =>
    cases hends with
    | done s => exact ⟨rfl, rfl⟩
    | stop rest hround => cases hround
    | next hround hends => cases hround
  | more hends _ ih =>
    cases hends with
    | stop rest hround =>
      cases hround
      obtain ⟨htake, htaken⟩ := ih
      refine ⟨?_, ?_⟩
      · simp only [take, next?_cons h, htake]
      · rw [htaken, List.singleton_append]
    | next hround hends => cases hround

theorem sublist_round (h : t.Linked kids) (id : NodeId) (s : Unit) :
    ([id] ++ ((loop t).round id s).tasks.flatMap fun c => (t.rose c).toList).Sublist
      (t.rose id).toList := by
  refine h.cons_sublist_rose ?_
  rw [loop, Round.tasks]
  split
  · exact List.nil_sublist _
  · exact List.filter_sublist

/-- However often a walk is pulled, it ends, and hands out the nodes that it takes. -/
theorem exists_pulls (h : t.Linked kids) (id : NodeId) (n : Nat) :
    ∃ taken left, (loop t).Pulls n [id] () taken taken left () ∧
      take t n (start id) = (taken, ⟨left⟩) ∧ t.MeetsOnce id taken ∧
      (taken.length < n → left = []) := by
  have hfits := Loop.fits_of_sublist (sublist_round h) fun id => List.cons_ne_nil id []
  obtain ⟨taken, found, left, s', hpulls, -⟩ := hfits.exists_pulls n [id] ()
  obtain ⟨htake, rfl⟩ := take_eq h hpulls
  have hmet := hpulls.sublist (sublist_round h)
  rw [List.flatMap_singleton', List.flatMap_singleton] at hmet
  refine ⟨taken, left, hpulls, htake, h.meetsOnce ((List.sublist_append_left _ _).trans hmet),
    hpulls.left_eq_nil fun id s tasks r hround => ?_⟩
  cases hround
  exact Option.some_ne_none id

end Walk

/-! ## Searches -/

namespace Search

variable {p : Test σ}

/-- The loop of a search: a node is handed out if it satisfies the test, and else makes way for its
children. -/
def loop (t : Tree) (p : Test σ) : Loop NodeId σ (Option NodeId × σ) where
  round id s :=
    match p id s with
    | (true, s) => .stop [] (some id, s)
    | (false, s) => .next (if t.isText id then [] else t.children id) s
  finish s := (none, s)

theorem round_loop (t : Tree) (p : Test σ) (id : NodeId) (s : σ) : (loop t p).round id s =
    if (p id s).1 then .stop [] (some id, (p id s).2)
    else .next (if t.isText id then [] else t.children id) (p id s).2 := by
  simp only [loop]
  obtain ⟨b, s'⟩ := p id s
  cases b <;> rfl

theorem carriedOut (h : t.Linked kids) (p : Test σ) :
    (loop t p).CarriedOut (fun n pending s => nextWithin t p n ⟨pending⟩ s)
      fun left r => (r.1, ⟨left⟩, r.2) where
  done n s := nextWithin_nil n s
  step n id rest s := by
    rw [round_loop]
    by_cases hp : (p id s).1
    · rw [if_pos hp]
      exact nextWithin_hit (Prod.ext hp rfl) n rest
    · rw [if_neg hp, nextWithin_miss h (Prod.ext (Bool.eq_false_iff.mpr hp) rfl), pending_below h]

theorem sublist_round (h : t.Linked kids) (p : Test σ) (id : NodeId) (s : σ) :
    ([id] ++ ((loop t p).round id s).tasks.flatMap fun c => (t.rose c).toList).Sublist
      (t.rose id).toList := by
  refine h.cons_sublist_rose ?_
  rw [round_loop]
  split
  · exact List.nil_sublist _
  · rw [Round.tasks]
    split
    · exact List.nil_sublist _
    · exact List.Sublist.refl _

theorem ne_none_of_stop (id : NodeId) (s : σ) (tasks : List NodeId) (r : Option NodeId × σ)
    (hround : (loop t p).round id s = .stop tasks r) : r.1 ≠ none := by
  rw [round_loop] at hround
  split at hround
  · cases hround
    exact Option.some_ne_none id
  · cases hround

/-- What is taken from a search, and what is still ahead of it. -/
theorem append_ahead_sublist (h : t.Linked kids) {pending taken left : List NodeId} {s : σ}
    {r : Option NodeId × σ} (hends : (loop t p).Ends pending s taken left r) :
    (taken ++ ahead t ⟨left⟩).Sublist (ahead t ⟨pending⟩) := by
  have hmet := hends.sublist (sublist_round h p)
  rw [List.flatMap_singleton'] at hmet
  exact hmet

/-- What is pulled from a search is what its loop hands out. -/
theorem take_eq (h : t.Linked kids) {pending taken found left : List NodeId} {s s' : σ}
    (hpulls : (loop t p).Pulls n pending s taken found left s')
    (hle : (ahead t ⟨pending⟩).length ≤ t.size) :
    take t p n ⟨pending⟩ s = (found, ⟨left⟩, s') := by
  induction hpulls with
  | enough pending s => rfl
  | last n hends =>
    have hlength := (append_ahead_sublist h hends).length_le
    rw [List.length_append] at hlength
    have hnext := hends.run_eq (carriedOut h p) (n := t.size) (by omega)
    simp only [take, next?, hnext]
  | more hends _ ih =>
    have hlength := (append_ahead_sublist h hends).length_le
    rw [List.length_append] at hlength
    have hnext := hends.run_eq (carriedOut h p) (n := t.size) (by omega)
    simp only [take, next?, hnext, ih (by omega)]

/-- However often a search is pulled, it ends: a search of nodes at and below `id`, such as one
that begins at `id` itself or at its children. -/
theorem exists_pulls (h : t.Linked kids) {pending : List NodeId}
    (hpending : (ahead t ⟨pending⟩).Sublist (t.rose id).toList) (p : Test σ) (s : σ) (n : Nat) :
    ∃ taken found left s', (loop t p).Pulls n pending s taken found left s' ∧
      take t p n ⟨pending⟩ s = (found, ⟨left⟩, s') ∧ t.MeetsOnce id taken ∧
      (found.length < n → left = []) := by
  have hfits := Loop.fits_of_sublist (sublist_round h p) fun id => List.cons_ne_nil id []
  obtain ⟨taken, found, left, s', hpulls, -⟩ := hfits.exists_pulls n pending s
  have hle : (ahead t ⟨pending⟩).length ≤ t.size :=
    Nat.le_trans hpending.length_le (h.length_rose_le id)
  have hmet := hpulls.sublist (sublist_round h p)
  rw [List.flatMap_singleton'] at hmet
  have hmet : (taken ++ ahead t ⟨left⟩).Sublist (ahead t ⟨pending⟩) := hmet
  exact ⟨taken, found, left, s', hpulls, take_eq h hpulls hle,
    h.meetsOnce (((List.sublist_append_left _ _).trans hmet).trans hpending),
    hpulls.left_eq_nil ne_none_of_stop⟩

theorem ahead_start (t : Tree) (id : NodeId) : ahead t (start id) = (t.rose id).toList := by
  rw [ahead, start, List.flatMap_singleton]

/-- Ahead of a search from the children there are nodes at and below `id`. -/
theorem ahead_below_sublist (h : t.Linked kids) (id : NodeId) :
    (ahead t (below t id)).Sublist (t.rose id).toList := by
  rw [ahead, pending_below h, h.toList_rose]
  refine List.Sublist.cons id (List.Sublist.flatMap ?_ _)
  split
  · exact List.nil_sublist _
  · exact List.Sublist.refl _

end Search

/-! ## Pruning -/

namespace Tree

variable {drop : Test σ}

/-- The loop of pruning: a node that is not dropped is copied below the node named with it, and
makes way for its children. -/
def pruneLoop (t : Tree) (drop : Test σ) : Loop (NodeId × NodeId) (Tree × σ) (Tree × σ) where
  round x s :=
    match drop x.1 s.2 with
    | (true, s') => .next [] (s.1, s')
    | (false, s') =>
      match t.content? x.1 with
      | none => .next [] (s.1, s')
      | some content => .next ((t.children x.1).map (·, s.1.size))
          ((s.1.add content).1.link x.2 s.1.size, s')
  finish s := s

theorem pruneLoop_carriedOut (h : Linked t kids) (drop : Test σ) :
    (t.pruneLoop drop).CarriedOut (fun n pending s => t.pruneOnto drop n pending s.1 s.2)
      fun _ r => r where
  done n s := by cases n <;> rfl
  step n x rest s := by
    obtain ⟨id, parent⟩ := x
    obtain ⟨copy, s⟩ := s
    simp only [pruneLoop, pruneOnto]
    obtain ⟨b, s'⟩ := drop id s
    cases b with
    | true => rfl
    | false =>
      cases t.content? id with
      | none => rfl
      | some content =>
        simp only [h.childrenOnto_eq, List.filter_true, List.append_nil]
        rfl

theorem sublist_pruneRound (h : Linked t kids) (drop : Test σ) (x : NodeId × NodeId)
    (s : Tree × σ) : ([x.1] ++ ((t.pruneLoop drop).round x s).tasks.flatMap
      fun y => (t.rose y.1).toList).Sublist (t.rose x.1).toList := by
  have hnone : ([x.1] ++ [].flatMap fun y : NodeId × NodeId => (t.rose y.1).toList).Sublist
      (t.rose x.1).toList := h.cons_sublist_rose (List.nil_sublist _)
  simp only [pruneLoop]
  split
  · exact hnone
  · split
    · exact hnone
    · rw [Round.tasks, List.flatMap_map]
      exact h.cons_sublist_rose (List.Sublist.refl _)

/-- When a tree is pruned whose top is not dropped, the loop begins at the children of the top, and
it ends with the copy. The top was met before. -/
theorem exists_pruneEnds (h : Linked t kids) {content : Content} (hc : t.content? id = some content)
    {s s' : σ} (hd : drop id s = (false, s')) :
    ∃ taken copy s'', (t.pruneLoop drop).Ends ((t.children id).map (·, root))
        (single content, s') taken [] (copy, s'') ∧
      t.prune drop id s = (some copy, s'') ∧ t.MeetsOnce id (id :: taken.map Prod.fst) := by
  have hfits := Loop.fits_of_sublist (sublist_pruneRound h drop) fun x => List.cons_ne_nil x.1 []
  obtain ⟨taken, left, ⟨copy, s''⟩, hends, -⟩ :=
    hfits.exists_ends ((t.children id).map (·, root)) (single content, s')
  have hleft : left = [] := by
    refine hends.left_eq_nil (P := fun _ => True) (fun x s tasks r hround => ?_) trivial
    simp only [pruneLoop] at hround
    split at hround
    · cases hround
    · split at hround <;> cases hround
  subst hleft
  have hmet := hends.sublist (sublist_pruneRound h drop)
  rw [List.flatMap_nil, List.append_nil, List.flatMap_map] at hmet
  have hfst : (taken.flatMap fun x => [x.1]) = taken.map Prod.fst :=
    List.flatMap_pure_eq_map Prod.fst taken
  rw [hfst] at hmet
  have honce : t.MeetsOnce id (id :: taken.map Prod.fst) := by
    refine h.meetsOnce ?_
    rw [h.toList_rose]
    exact hmet.cons_cons id
  have hlength := honce.length_le
  rw [List.length_cons, List.length_map] at hlength
  have hrun := hends.run_eq (pruneLoop_carriedOut h drop) (n := t.size) (by omega)
  refine ⟨taken, copy, s'', hends, ?_, honce⟩
  simp only [prune, hd, hc, h.childrenOnto_eq, List.filter_true, List.append_nil, hrun]

end Tree

end Hypertext
