import Hypertext.Proofs.Tree.Rose
import Hypertext.Search

/-!
# Pulling from a search

A search hands out one match for each pull, and keeps the nodes that it has still to visit. What
pulling gives is said without regard to fuel by what becomes of the node in front: it is a match
and is handed out (`take_hit`), or it is none, and the nodes below it take its place
(`take_miss`).

By recursion on a tree, `Rose.search` collects at most so many matches from the left to the
right. Pulling gives the same matches and puts the same questions (`Search.finds_node`): first
the matches in the tree at the node in front, and then as many as are still wanted from the
nodes behind it.
-/

namespace Hypertext

/-! ## By recursion on the tree -/

namespace Rose

variable {α σ : Type}

mutual

/-- At most `n` matches in a tree, from the left to the right and none below another or below a
leaf, and the state after the questions that were put for them. -/
def search (leaf : α → Bool) (p : α → σ → Bool × σ) : Rose α → Nat → σ → List α × σ
  | .node value below, n, s =>
    if n = 0 then ([], s)
    else
      match p value s with
      | (true, s) => ([value], s)
      | (false, s) => if leaf value then ([], s) else searchAll leaf p below n s

/-- At most `n` matches in trees in order. -/
def searchAll (leaf : α → Bool) (p : α → σ → Bool × σ) : List (Rose α) → Nat → σ → List α × σ
  | [], _, s => ([], s)
  | r :: rest, n, s =>
    let (found, s) := search leaf p r n s
    let (more, s) := searchAll leaf p rest (n - found.length) s
    (found ++ more, s)

end

end Rose

/-! ## By pulling -/

namespace Search

variable {σ : Type} {t : Tree} {kids : NodeId → List NodeId} {p : Test σ} {id : NodeId}
  {rest : List NodeId} {s s' : σ}

/-- The nodes at and below the pending nodes: those that a search may still meet. -/
def ahead (t : Tree) (w : Search) : List NodeId :=
  w.pending.flatMap fun id => (t.rose id).toList

theorem length_ahead_cons (t : Tree) (id : NodeId) (rest : List NodeId) :
    (ahead t ⟨id :: rest⟩).length = (t.rose id).toList.length + (ahead t ⟨rest⟩).length := by
  rw [ahead, List.flatMap_cons, List.length_append, ahead]

theorem length_ahead_append (t : Tree) (xs ys : List NodeId) :
    (ahead t ⟨xs ++ ys⟩).length = (ahead t ⟨xs⟩).length + (ahead t ⟨ys⟩).length := by
  rw [ahead, List.flatMap_append, List.length_append, ahead, ahead]

/-- There are no more nodes ahead of a search from one node than in the tree. -/
theorem length_ahead_start_le (h : t.Linked kids) (id : NodeId) :
    (ahead t (start id)).length ≤ t.size := by
  rw [start, length_ahead_cons]
  exact h.length_rose_le id

theorem pending_below (h : t.Linked kids) (id : NodeId) :
    (below t id).pending = if t.isText id then [] else t.children id := by
  rw [below]
  split
  · rfl
  · show t.childrenOnto (fun _ => true) id [] = t.children id
    rw [h.childrenOnto_eq, List.filter_true, List.append_nil]

/-- When a node gives way to the nodes below it, there is at least one node less ahead. -/
theorem length_ahead_below_lt (h : t.Linked kids) (id : NodeId) (rest : List NodeId) :
    (ahead t ⟨(below t id).pending ++ rest⟩).length < (ahead t ⟨id :: rest⟩).length := by
  rw [length_ahead_append, length_ahead_cons, pending_below h, h.toList_rose, List.length_cons]
  split
  · have hnil : (ahead t ⟨[]⟩).length = 0 := rfl
    omega
  · show (ahead t ⟨t.children id⟩).length + _ < (ahead t ⟨t.children id⟩).length + 1 + _
    omega

theorem nextWithin_nil (n : Nat) (s : σ) : nextWithin t p n ⟨[]⟩ s = (none, ⟨[]⟩, s) := by
  cases n <;> rfl

theorem nextWithin_hit (hp : p id s = (true, s')) (n : Nat) (rest : List NodeId) :
    nextWithin t p (n + 1) ⟨id :: rest⟩ s = (some id, ⟨rest⟩, s') := by
  simp only [nextWithin, hp]

theorem nextWithin_miss (h : t.Linked kids) (hp : p id s = (false, s')) (n : Nat)
    (rest : List NodeId) : nextWithin t p (n + 1) ⟨id :: rest⟩ s =
      nextWithin t p n ⟨(below t id).pending ++ rest⟩ s' := by
  simp only [nextWithin, hp, pending_below h, h.childrenOnto_eq, List.filter_true]
  split <;> rfl

/-- Any fuel does that is not less than the number of nodes ahead. -/
theorem nextWithin_stable (h : t.Linked kids) : ∀ (n m : Nat) (pending : List NodeId) (s : σ),
    (ahead t ⟨pending⟩).length ≤ n → (ahead t ⟨pending⟩).length ≤ m →
      nextWithin t p n ⟨pending⟩ s = nextWithin t p m ⟨pending⟩ s
  | n, m, [], s, _, _ => by rw [nextWithin_nil, nextWithin_nil]
  | 0, _, id :: rest, _, hn, _ | _ + 1, 0, id :: rest, _, _, hn => by
    have hpos := h.length_rose_pos id
    rw [length_ahead_cons] at hn
    omega
  | n + 1, m + 1, id :: rest, s, hn, hm => by
    have hlt := length_ahead_below_lt h id rest
    obtain ⟨b, s', hp⟩ : ∃ b s', p id s = (b, s') := ⟨_, _, rfl⟩
    cases b with
    | true => rw [nextWithin_hit hp, nextWithin_hit hp]
    | false =>
      rw [nextWithin_miss h hp, nextWithin_miss h hp]
      exact nextWithin_stable h n m _ s' (by omega) (by omega)

theorem next?_nil (t : Tree) (p : Test σ) (s : σ) : next? t p ⟨[]⟩ s = (none, ⟨[]⟩, s) :=
  nextWithin_nil _ s

theorem next?_hit (t : Tree) (hp : p id s = (true, s')) (rest : List NodeId) :
    next? t p ⟨id :: rest⟩ s = (some id, ⟨rest⟩, s') := by
  obtain ⟨n, hn⟩ := Nat.exists_eq_succ_of_ne_zero (Nat.ne_of_gt t.nonempty)
  rw [next?, Tree.size, hn, nextWithin_hit hp]

theorem next?_miss (h : t.Linked kids) (hp : p id s = (false, s'))
    (hle : (ahead t ⟨id :: rest⟩).length ≤ t.size) :
    next? t p ⟨id :: rest⟩ s = next? t p ⟨(below t id).pending ++ rest⟩ s' := by
  have hlt := length_ahead_below_lt h id rest
  obtain ⟨n, hn⟩ := Nat.exists_eq_succ_of_ne_zero (Nat.ne_of_gt t.nonempty)
  have hsize : t.size = n + 1 := hn
  rw [next?, next?, hsize, nextWithin_miss h hp]
  exact nextWithin_stable h _ _ _ s' (by omega) (by omega)

/-- Whatever is pulled from a search at its end, it stays there. -/
theorem take_nil (t : Tree) (p : Test σ) (n : Nat) (s : σ) :
    take t p n ⟨[]⟩ s = ([], ⟨[]⟩, s) := by
  cases n with
  | zero => rfl
  | succ n => simp only [take, next?_nil]

/-- A match in front is handed out. -/
theorem take_hit (t : Tree) (hp : p id s = (true, s')) (n : Nat) (rest : List NodeId) :
    take t p (n + 1) ⟨id :: rest⟩ s =
      (id :: (take t p n ⟨rest⟩ s').1, (take t p n ⟨rest⟩ s').2) := by
  simp only [take, next?_hit t hp]

/-- Any other node in front gives way to the nodes below it. -/
theorem take_miss (h : t.Linked kids) (hp : p id s = (false, s')) (n : Nat)
    (hle : (ahead t ⟨id :: rest⟩).length ≤ t.size) :
    take t p (n + 1) ⟨id :: rest⟩ s = take t p (n + 1) ⟨(below t id).pending ++ rest⟩ s' := by
  simp only [take, next?_miss h hp hle]

/-- The first match is what a search hands out when it is pulled once. -/
theorem first?_eq_take (t : Tree) (p : Test σ) (id : NodeId) (s : σ) :
    first? t p id s = ((take t p 1 (start id) s).1.head?, (take t p 1 (start id) s).2.2) := by
  simp only [first?, take]
  obtain ⟨_ | x, w, s'⟩ := next? t p (start id) s <;> rfl

/-- A search moves on, and it comes to an end only when nothing is pending. -/
theorem nextWithin_moves (h : t.Linked kids) : ∀ (n : Nat) (pending : List NodeId) (s : σ),
    (ahead t ⟨pending⟩).length ≤ n →
      ((nextWithin t p n ⟨pending⟩ s).1 = none →
        (nextWithin t p n ⟨pending⟩ s).2.1.pending = []) ∧
      (ahead t (nextWithin t p n ⟨pending⟩ s).2.1).length ≤ (ahead t ⟨pending⟩).length
  | n, [], s, _ => by
    rw [nextWithin_nil]
    exact ⟨fun _ => rfl, Nat.le_refl _⟩
  | 0, id :: rest, _, hn => by
    have hpos := h.length_rose_pos id
    rw [length_ahead_cons] at hn
    omega
  | n + 1, id :: rest, s, hn => by
    have hlt := length_ahead_below_lt h id rest
    obtain ⟨b, s', hp⟩ : ∃ b s', p id s = (b, s') := ⟨_, _, rfl⟩
    cases b with
    | true =>
      rw [nextWithin_hit hp, length_ahead_cons]
      exact ⟨fun e => absurd e (Option.some_ne_none id), Nat.le_add_left _ _⟩
    | false =>
      rw [nextWithin_miss h hp]
      obtain ⟨hend, hle⟩ :=
        nextWithin_moves h n ((below t id).pending ++ rest) s' (by omega)
      exact ⟨hend, by omega⟩

/-- A search that has handed out less than was asked for has nothing pending. -/
theorem pending_take_of_lt (h : t.Linked kids) : ∀ (n : Nat) (w : Search) (s : σ),
    (ahead t w).length ≤ t.size → (take t p n w s).1.length < n →
      (take t p n w s).2.1.pending = []
  | 0, _, _, _, hlt => absurd hlt (Nat.not_lt_zero _)
  | n + 1, w, s, hle, hlt => by
    obtain ⟨hend, hmoved⟩ := nextWithin_moves (p := p) h t.size w.pending s hle
    obtain ⟨found, w', s', hnext⟩ : ∃ found w' s', next? t p w s = (found, w', s') :=
      ⟨_, _, _, rfl⟩
    rw [show nextWithin t p t.size ⟨w.pending⟩ s = (found, w', s') from hnext] at hend hmoved
    cases found with
    | none =>
      simp only [take, hnext]
      exact hend rfl
    | some id =>
      simp only [take, hnext, List.length_cons] at hlt ⊢
      exact pending_take_of_lt h n w' s' (Nat.le_trans hmoved hle) (Nat.lt_of_succ_lt_succ hlt)

/-! ## What is found -/

/-- From the nodes `ids`, whatever nodes are pending behind them, `n` pulls get the matches `r.1`
and come to the state `r.2`; then they go on to the nodes behind. -/
def Finds (t : Tree) (p : Test σ) (n : Nat) (ids : List NodeId) (s : σ)
    (r : List NodeId × σ) : Prop :=
  ∀ rest, (ahead t ⟨ids ++ rest⟩).length ≤ t.size →
    (take t p n ⟨ids ++ rest⟩ s).1 = r.1 ++ (take t p (n - r.1.length) ⟨rest⟩ r.2).1 ∧
    (take t p n ⟨ids ++ rest⟩ s).2.2 = (take t p (n - r.1.length) ⟨rest⟩ r.2).2.2

theorem Finds.nil (t : Tree) (p : Test σ) (n : Nat) (s : σ) : Finds t p n [] s ([], s) :=
  fun _ _ => ⟨rfl, rfl⟩

/-- What is found from nodes and then from nodes behind them. -/
theorem Finds.append {n : Nat} {xs ys : List NodeId} {r r' : List NodeId × σ}
    (hx : Finds t p n xs s r) (hy : Finds t p (n - r.1.length) ys r.2 r') :
    Finds t p n (xs ++ ys) s (r.1 ++ r'.1, r'.2) := by
  intro rest hle
  rw [List.append_assoc] at hle ⊢
  have hle' : (ahead t ⟨ys ++ rest⟩).length ≤ t.size := by
    rw [length_ahead_append] at hle
    omega
  obtain ⟨hfound, hstate⟩ := hx (ys ++ rest) hle
  obtain ⟨hfound', hstate'⟩ := hy rest hle'
  rw [List.length_append, ← Nat.sub_sub]
  exact ⟨by rw [hfound, hfound', List.append_assoc], hstate.trans hstate'⟩

/-- Nodes one after another, if the search in each of them finds what the recursion does. -/
theorem finds_nodes : ∀ (ids : List NodeId) (n : Nat) (s : σ),
    (∀ id ∈ ids, ∀ n s, Finds t p n [id] s ((t.rose id).search t.isText p n s)) →
      Finds t p n ids s (Rose.searchAll t.isText p (ids.map t.rose) n s)
  | [], n, s, _ => Finds.nil t p n s
  | id :: ids, n, s, hids => by
    rw [List.map_cons, Rose.searchAll]
    exact Finds.append (hids id List.mem_cons_self n s)
      (finds_nodes ids _ _ fun x hx => hids x (List.mem_cons_of_mem id hx))

/-- The search in a node finds what the recursion does, by induction on the tree below it. -/
theorem finds_node (h : t.Linked kids) (p : Test σ) (id : NodeId) (n : Nat) (s : σ) :
    Finds t p n [id] s ((t.rose id).search t.isText p n s) := by
  induction id using h.induction generalizing n s with
  | step id ih =>
    rw [h.rose_eq, Rose.search]
    cases n with
    | zero => exact fun rest hle => ⟨rfl, rfl⟩
    | succ n =>
      rw [if_neg (Nat.succ_ne_zero n)]
      obtain ⟨b, s', hp⟩ : ∃ b s', p id s = (b, s') := ⟨_, _, rfl⟩
      rw [hp]
      intro rest hle
      cases b with
      | true =>
        rw [List.singleton_append, take_hit t hp]
        exact ⟨rfl, rfl⟩
      | false =>
        have hlt := length_ahead_below_lt h id rest
        rw [List.singleton_append] at hle ⊢
        rw [take_miss h hp n hle]
        rw [pending_below h] at hlt ⊢
        by_cases htext : t.isText id
        · simp only [htext, if_true]
          exact ⟨rfl, rfl⟩
        · simp only [htext, if_false, Bool.false_eq_true] at hlt ⊢
          exact finds_nodes (t.children id) (n + 1) s' ih rest (by omega)

/-- From a search that begins at a node, `n` pulls get what the recursion finds in the tree at
and below it, and come to the same state. -/
theorem take_start_eq_search (h : t.Linked kids) (p : Test σ) (id : NodeId) (n : Nat) (s : σ) :
    (take t p n (start id) s).1 = ((t.rose id).search t.isText p n s).1 ∧
      (take t p n (start id) s).2.2 = ((t.rose id).search t.isText p n s).2 := by
  have hfinds := finds_node h p id n s [] (length_ahead_start_le h id)
  rw [take_nil] at hfinds
  exact ⟨hfinds.1.trans (List.append_nil _), hfinds.2⟩

end Search

end Hypertext
