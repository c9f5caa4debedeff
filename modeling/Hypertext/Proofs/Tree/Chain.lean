import Hypertext.Tree
import Mathlib.Data.List.Nodup
import Mathlib.Data.List.Perm.Subperm

/-!
# Chains of links

Following a link from node to node, until there is none. `Follows next start ids` says that the
way from `start` leads through exactly the nodes `ids`. The way is determined by where it starts
(`Follows.unique`), so it never meets a node twice (`Follows.nodup`).

* `Follows.suffix`: from a node of the way on, it is the rest of the way.
* `Follows.snoc`: how a way grows at its end.
* `Follows.length_le`: a way through `n` places has at most `n` nodes.
-/

namespace Hypertext

/-- From `start` on, the links `next` lead through exactly these nodes and then end. -/
def Follows (next : NodeId → Option NodeId) : Option NodeId → List NodeId → Prop
  | start, [] => start = none
  | start, id :: ids => start = some id ∧ Follows next (next id) ids

variable {next next' : NodeId → Option NodeId}

@[simp] theorem follows_nil {start : Option NodeId} : Follows next start [] ↔ start = none :=
  Iff.rfl

@[simp] theorem follows_cons {start : Option NodeId} {id : NodeId} {ids : List NodeId} :
    Follows next start (id :: ids) ↔ start = some id ∧ Follows next (next id) ids :=
  Iff.rfl

/-- A way that starts nowhere is empty. -/
theorem follows_none {ids : List NodeId} : Follows next none ids ↔ ids = [] := by
  cases ids <;> simp

/-- A way starts at its first node. -/
theorem Follows.head? {start : Option NodeId} {ids : List NodeId} (h : Follows next start ids) :
    ids.head? = start := by
  cases ids with
  | nil => rw [follows_nil.mp h, List.head?_nil]
  | cons id ids => rw [h.1, List.head?_cons]

/-- Where a way starts determines it. -/
theorem Follows.unique : ∀ {start : Option NodeId} {xs ys : List NodeId},
    Follows next start xs → Follows next start ys → xs = ys
  | _, [], _, hx, hy => by rw [follows_nil.mp hx] at hy; exact (follows_none.mp hy).symm
  | _, _ :: _, [], hx, hy => by rw [follows_nil.mp hy] at hx; exact follows_none.mp hx
  | _, x :: xs, y :: ys, ⟨ex, hx⟩, ⟨ey, hy⟩ => by
    obtain rfl : x = y := Option.some.inj (ex.symm.trans ey)
    rw [Follows.unique hx hy]

/-- From one of its nodes on, a way is the rest of the way. -/
theorem Follows.suffix : ∀ {xs : List NodeId} {start : Option NodeId} {id : NodeId}
    {ys : List NodeId}, Follows next start (xs ++ id :: ys) → Follows next (some id) (id :: ys)
  | [], _, _, _, h => ⟨rfl, h.2⟩
  | _ :: _, _, _, _, h => Follows.suffix h.2

/-- The rest of a way after a link that it takes. -/
theorem Follows.tail_suffix {start : Option NodeId} {xs ys : List NodeId} {id : NodeId}
    (h : Follows next start (xs ++ id :: ys)) : Follows next (next id) ys :=
  h.suffix.2

/-- A way takes the links of its nodes. -/
theorem Follows.mem_of_link {start : Option NodeId} {ids : List NodeId} {id target : NodeId}
    (h : Follows next start ids) (hid : id ∈ ids) (hl : next id = some target) : target ∈ ids := by
  obtain ⟨xs, ys, rfl⟩ := List.append_of_mem hid
  have hm : target ∈ ys := List.mem_of_head? (h.tail_suffix.head?.trans hl)
  exact List.mem_append_right _ (List.mem_cons_of_mem _ hm)

/-- A way from a node does not come back to it. -/
theorem Follows.not_mem {id : NodeId} {ids : List NodeId} (h : Follows next (next id) ids) :
    id ∉ ids := by
  intro hm
  obtain ⟨xs, ys, rfl⟩ := List.append_of_mem hm
  have e := congrArg List.length (h.unique h.tail_suffix)
  simp only [List.length_append, List.length_cons] at e
  omega

/-- A way meets no node twice. -/
theorem Follows.nodup : ∀ {ids : List NodeId} {start : Option NodeId},
    Follows next start ids → ids.Nodup
  | [], _, _ => List.nodup_nil
  | _ :: _, _, h => List.nodup_cons.mpr ⟨h.2.not_mem, h.2.nodup⟩

/-- Links that agree on the nodes of a way lead the same way. -/
theorem Follows.congr : ∀ {ids : List NodeId} {start : Option NodeId}, Follows next start ids →
    (∀ id ∈ ids, next' id = next id) → Follows next' start ids
  | [], _, h, _ => h
  | id :: ids, _, ⟨e, h⟩, hn => by
    refine ⟨e, ?_⟩
    rw [hn id List.mem_cons_self]
    exact h.congr fun x hx => hn x (List.mem_cons_of_mem _ hx)

/-- Two ways, the second of which goes on where the first ends. -/
theorem Follows.append : ∀ {xs : List NodeId} {start : Option NodeId} {id : NodeId}
    {ys : List NodeId}, Follows next start (xs ++ [id]) → (∀ x ∈ xs, next' x = next x) →
      Follows next' (next' id) ys → Follows next' start (xs ++ id :: ys)
  | [], _, _, _, h, _, hy => ⟨h.1, hy⟩
  | x :: xs, _, _, _, ⟨e, h⟩, hx, hy => by
    refine ⟨e, ?_⟩
    rw [hx x List.mem_cons_self]
    exact h.append (fun z hz => hx z (List.mem_cons_of_mem _ hz)) hy

/-- A way to which a node is added at the end: only the link of its last node changes. -/
theorem Follows.snoc {start : Option NodeId} {xs : List NodeId} {id : NodeId}
    (h : Follows next start xs) (hid : next' id = none)
    (hkeep : ∀ x ∈ xs, xs.getLast? ≠ some x → next' x = next x)
    (hlast : ∀ x, xs.getLast? = some x → next' x = some id) :
    Follows next' (if xs = [] then some id else start) (xs ++ [id]) := by
  rcases List.eq_nil_or_concat xs with rfl | ⟨xs, last, rfl⟩
  · simp [hid]
  · have hn := h.nodup
    rw [List.concat_eq_append] at h hkeep hlast hn ⊢
    rw [if_neg (by simp), List.append_assoc]
    refine h.append (fun x hx => hkeep x (List.mem_append_left _ hx) fun e => ?_) ?_
    · rw [List.getLast?_concat, Option.some.injEq] at e
      exact (List.nodup_append.mp hn).2.2 x hx last List.mem_cons_self e.symm
    · rw [hlast last List.getLast?_concat]
      exact ⟨rfl, hid⟩

/-- A list without repetitions of numbers below `n` has at most `n` of them. -/
theorem length_le_of_nodup {ids : List Nat} {n : Nat} (h : ids.Nodup) (hlt : ∀ id ∈ ids, id < n) :
    ids.length ≤ n := by
  have := (List.subperm_of_subset h fun id hid => List.mem_range.mpr (hlt id hid)).length_le
  rwa [List.length_range] at this

/-- A way through `n` places has at most `n` nodes. -/
theorem Follows.length_le {start : Option NodeId} {ids : List NodeId} {n : Nat}
    (h : Follows next start ids) (hlt : ∀ id ∈ ids, id < n) : ids.length ≤ n :=
  length_le_of_nodup h.nodup hlt

end Hypertext
