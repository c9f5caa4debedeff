import Hypertext.Proofs.Search.Outermost

/-!
# The calls of a search

By recursion on a tree, from the left to the right and with no stop on the way, `Rose.calls` makes
the calls of a test that a whole search takes. Pulled some times, a search makes the calls up to the
match that it hands out last, and no other ones: it is the beginning of the whole search that the
matches ask for (`Call.upTo`, `Search.isLazy`).

A record of the calls is a test again (`Test.traced`). What holds of it and of the test itself is
shown once, of all tests whose state is made up from a state of the other test and its calls so far
(`Records`).
-/

namespace Hypertext

/-- A call of a test: what is tested, the state before, the answer, and the state after. -/
structure Call (α σ : Type) where
  value : α
  before : σ
  answer : Bool
  after : σ
  deriving DecidableEq, Repr

namespace Call

variable {α σ : Type}

/-- The call of a test on a value in a state. -/
def of (p : α → σ → Bool × σ) (a : α) (s : σ) : Call α σ :=
  ⟨a, s, (p a s).1, (p a s).2⟩

/-- The values that were accepted. -/
def found (calls : List (Call α σ)) : List α :=
  (calls.filter answer).map value

/-- The state after calls of which the first is made in state `s`. -/
def stateAfter (s : σ) (calls : List (Call α σ)) : σ :=
  calls.foldl (fun _ c => c.after) s

/-- The calls up to the `n`-th that is answered with yes, and this one; all calls if there are fewer
of them. -/
def upTo : Nat → List (Call α σ) → List (Call α σ)
  | 0, _ => []
  | _, [] => []
  | n + 1, c :: rest => c :: upTo (if c.answer then n else n + 1) rest

variable {c : Call α σ} {xs ys : List (Call α σ)} {n : Nat} {s : σ}

theorem found_append : found (xs ++ ys) = found xs ++ found ys := by
  rw [found, List.filter_append, List.map_append, found, found]

theorem stateAfter_append : stateAfter s (xs ++ ys) = stateAfter (stateAfter s xs) ys :=
  List.foldl_append

theorem upTo_zero (xs : List (Call α σ)) : upTo 0 xs = [] := by
  rw [upTo]

theorem upTo_nil (n : Nat) : upTo n ([] : List (Call α σ)) = [] := by
  cases n <;> rfl

theorem upTo_cons_yes (h : c.answer = true) (n : Nat) :
    upTo (n + 1) (c :: xs) = c :: upTo n xs := by
  rw [upTo, if_pos h]

theorem upTo_cons_no (h : c.answer = false) (n : Nat) :
    upTo (n + 1) (c :: xs) = c :: upTo (n + 1) xs := by
  rw [upTo, h, if_neg Bool.false_ne_true]

theorem found_cons_yes (h : c.answer = true) : found (c :: xs) = c.value :: found xs := by
  rw [found, List.filter_cons_of_pos h, List.map_cons, found]

theorem found_cons_no (h : c.answer = false) : found (c :: xs) = found xs := by
  rw [found, List.filter_cons_of_neg (by rw [h]; decide), found]

/-- The matches among the first calls are the first matches. -/
theorem found_upTo (n : Nat) (xs : List (Call α σ)) : found (upTo n xs) = (found xs).take n := by
  induction xs generalizing n with
  | nil => rw [upTo_nil, found, List.filter_nil, List.map_nil, List.take_nil]
  | cons c xs ih =>
    cases n with
    | zero => rw [upTo_zero, List.take_zero, found, List.filter_nil, List.map_nil]
    | succ n =>
      cases h : c.answer with
      | true => rw [upTo_cons_yes h, found_cons_yes h, found_cons_yes h, ih, List.take_succ_cons]
      | false => rw [upTo_cons_no h, found_cons_no h, found_cons_no h, ih]

/-- Matches that are still wanted behind some calls are looked for in the calls that follow. -/
theorem upTo_append (n : Nat) (xs ys : List (Call α σ)) :
    upTo n (xs ++ ys) = upTo n xs ++ upTo (n - (found xs).length) ys := by
  induction xs generalizing n with
  | nil => rw [upTo_nil, List.nil_append, List.nil_append, found, List.filter_nil, List.map_nil,
      List.length_nil, Nat.sub_zero]
  | cons c xs ih =>
    cases n with
    | zero => rw [Nat.zero_sub, upTo_zero, upTo_zero, upTo_zero, List.append_nil]
    | succ n =>
      rw [List.cons_append]
      cases h : c.answer with
      | true =>
        rw [upTo_cons_yes h, upTo_cons_yes h, found_cons_yes h, ih, List.length_cons,
          Nat.succ_sub_succ, List.cons_append]
      | false => rw [upTo_cons_no h, upTo_cons_no h, found_cons_no h, ih, List.cons_append]

/-- All calls are made if more matches are wanted than there are. -/
theorem upTo_of_length_lt (h : (found xs).length < n) : upTo n xs = xs := by
  induction xs generalizing n with
  | nil => exact upTo_nil n
  | cons c xs ih =>
    obtain ⟨n, rfl⟩ := Nat.exists_eq_succ_of_ne_zero (Nat.ne_zero_of_lt h)
    cases hc : c.answer with
    | true =>
      rw [found_cons_yes hc, List.length_cons] at h
      rw [upTo_cons_yes hc, ih (Nat.lt_of_succ_lt_succ h)]
    | false =>
      rw [found_cons_no hc] at h
      rw [upTo_cons_no hc, ih h]

end Call

namespace Rose

variable {α σ : Type}

mutual

/-- The calls of a search in a tree, from the left to the right and none below a match or below a
leaf. -/
def calls (leaf : α → Bool) (p : α → σ → Bool × σ) : Rose α → σ → List (Call α σ)
  | .node value below, s =>
    .of p value s :: if (p value s).1 || leaf value then [] else callsAll leaf p below (p value s).2

/-- The calls of a search in trees in order. -/
def callsAll (leaf : α → Bool) (p : α → σ → Bool × σ) : List (Rose α) → σ → List (Call α σ)
  | [], _ => []
  | r :: rest, s =>
    calls leaf p r s ++ callsAll leaf p rest (Call.stateAfter s (calls leaf p r s))

end

end Rose

/-- The state of the test `q` is made up from a state of `p` and its calls so far, and the answers
are the same. -/
def Records {α σ τ : Type} (p : α → σ → Bool × σ) (view : σ → List (Call α σ) → τ)
    (q : α → τ → Bool × τ) : Prop :=
  ∀ a s calls, q a (view s calls) = ((p a s).1, view (p a s).2 (calls ++ [Call.of p a s]))

theorem Records.refl {α σ : Type} (p : α → σ → Bool × σ) : Records p (fun s _ => s) p :=
  fun _ _ _ => rfl

namespace Rose

variable {α σ τ : Type} {leaf : α → Bool} {p : α → σ → Bool × σ} {q : α → τ → Bool × τ}
  {view : σ → List (Call α σ) → τ}

theorem search_zero (r : Rose α) (t : τ) : r.search leaf q 0 t = ([], t) := by
  cases r with
  | node value below => rw [search, if_pos rfl]

theorem searchAll_zero : ∀ (rs : List (Rose α)) (t : τ), searchAll leaf q rs 0 t = ([], t)
  | [], _ => rfl
  | r :: rest, t => by
    rw [searchAll, search_zero]
    simp only [Nat.zero_sub, searchAll_zero rest, List.append_nil]

/-- What becomes of calls: the matches among them, and the state of a test that records them. -/
def outcome (view : σ → List (Call α σ) → τ) (s : σ) (before made : List (Call α σ)) : List α × τ :=
  (Call.found made, view (Call.stateAfter s made) (before ++ made))

theorem searchAll_of_records : ∀ (rs : List (Rose α)) (n : Nat) (s : σ) (before : List (Call α σ)),
    (∀ r ∈ rs, ∀ n s before, r.search leaf q n (view s before) =
      outcome view s before (Call.upTo n (r.calls leaf p s))) →
    searchAll leaf q rs n (view s before) =
      outcome view s before (Call.upTo n (callsAll leaf p rs s))
  | [], n, s, before, _ => by
    rw [callsAll, Call.upTo_nil, searchAll, outcome, List.append_nil]
    rfl
  | r :: rest, n, s, before, h => by
    have hr := h r List.mem_cons_self n s before
    have hlength : n - (Call.found (Call.upTo n (r.calls leaf p s))).length =
        n - (Call.found (r.calls leaf p s)).length := by
      rw [Call.found_upTo, List.length_take]
      omega
    rw [searchAll, hr, callsAll, Call.upTo_append]
    simp only [outcome, hlength]
    rcases Nat.lt_or_ge (Call.found (r.calls leaf p s)).length n with hlt | hge
    · -- The first tree has not enough matches, so all its calls are made.
      have hrest := searchAll_of_records rest (n - (Call.found (r.calls leaf p s)).length)
        (Call.stateAfter s (r.calls leaf p s)) (before ++ r.calls leaf p s)
        fun x hx => h x (List.mem_cons_of_mem r hx)
      rw [Call.upTo_of_length_lt hlt, hrest]
      simp only [outcome, Call.found_append, Call.stateAfter_append, List.append_assoc]
    · -- The first tree has all the matches that are wanted.
      rw [Nat.sub_eq_zero_of_le hge, searchAll_zero, Call.upTo_zero, List.append_nil,
        List.append_nil]

/-- What a search finds by recursion, and the state that it leaves, are those of its first calls. -/
theorem search_of_records (hq : Records p view q) (r : Rose α) (n : Nat) (s : σ)
    (before : List (Call α σ)) : r.search leaf q n (view s before) =
      outcome view s before (Call.upTo n (r.calls leaf p s)) := by
  induction r generalizing n s before with
  | node value below ih =>
    rw [search, calls]
    cases n with
    | zero =>
      rw [if_pos rfl, Call.upTo_zero, outcome, List.append_nil]
      rfl
    | succ n =>
      rw [if_neg (Nat.succ_ne_zero n), hq value s before]
      cases hanswer : (p value s).1 with
      | true =>
        have hyes : (Call.of p value s).answer = true := hanswer
        rw [Bool.true_or, if_pos rfl, Call.upTo_cons_yes hyes, Call.upTo_nil, outcome,
          Call.found_cons_yes hyes]
        rfl
      | false =>
        have hno : (Call.of p value s).answer = false := hanswer
        rw [Bool.false_or, Call.upTo_cons_no hno, outcome, Call.found_cons_no hno]
        by_cases hleaf : leaf value
        · simp only [if_pos hleaf, Call.upTo_nil]
          rfl
        · have hbelow := searchAll_of_records below (n + 1) (p value s).2
            (before ++ [Call.of p value s]) ih
          simp only [if_neg hleaf, hbelow, outcome, List.append_assoc]
          rfl

end Rose

/-! ## By pulling -/

/-- The test with a record of its calls, in order. -/
def Test.traced {σ : Type} (p : Test σ) : Test (σ × List (Call NodeId σ)) :=
  fun id (s, calls) => ((p id s).1, (p id s).2, calls ++ [.of p id s])

theorem Test.records_traced {σ : Type} (p : Test σ) :
    Records p (fun s calls => (s, calls)) p.traced :=
  fun _ _ _ => rfl

namespace Search

variable {σ τ : Type} {t : Tree} {kids : NodeId → List NodeId} {p : Test σ} {q : Test τ}
  {view : σ → List (Call NodeId σ) → τ}

/-- What is pulled from the nodes `ids` is what their first calls give. -/
theorem take_of_records (h : t.Linked kids) (hq : Records p view q) {ids : List NodeId}
    (hle : (ahead t ⟨ids⟩).length ≤ t.size) (n : Nat) (s : σ) :
    ((take t q n ⟨ids⟩ (view s [])).1, (take t q n ⟨ids⟩ (view s [])).2.2) =
      Rose.outcome view s [] (Call.upTo n (Rose.callsAll t.isText p (ids.map t.rose) s)) := by
  have hfinds := finds_nodes ids n (view s []) fun id _ => finds_node h q id
  have hnothing := hfinds [] (by rwa [List.append_nil])
  rw [List.append_nil, take_nil, List.append_nil] at hnothing
  rw [hnothing.1, hnothing.2]
  refine Rose.searchAll_of_records _ n s [] fun r _ n s before => ?_
  exact Rose.search_of_records hq r n s before

/-- Of the calls `all` that a whole search makes, the search `w` makes those that the pulls so far
ask for, and no other ones. -/
structure IsLazy (t : Tree) (p : Test σ) (w : Search) (s : σ) (all : List (Call NodeId σ)) :
    Prop where
  /-- What `n` pulls hand out, and the state that they leave. -/
  pulled : ∀ n, (take t p n w s).1 = Call.found (Call.upTo n all) ∧
    (take t p n w s).2.2 = Call.stateAfter s (Call.upTo n all)
  /-- The calls of `n` pulls; the record changes nothing else. -/
  traced : ∀ n, (take t p.traced n w (s, [])).1 = Call.found (Call.upTo n all) ∧
    (take t p.traced n w (s, [])).2.2 = (Call.stateAfter s (Call.upTo n all), Call.upTo n all)
  /-- When a pull has found nothing, the next one does not either. It puts no test, whatever the
  test is, and leaves the search as it is. -/
  ended : ∀ n, (take t p n w s).1.length < n → ∀ {τ : Type} (q : Test τ) (u : τ),
    next? t q (take t p n w s).2.1 u = (none, (take t p n w s).2.1, u)
  /-- It comes to that with the first pull for which there is no match left. -/
  ends : ∀ n, (take t p n w s).1.length < n ↔ (Call.found all).length < n

/-- A search of some nodes is lazy. -/
theorem isLazy_of_pending (h : t.Linked kids) (p : Test σ) {ids : List NodeId}
    (hle : (ahead t ⟨ids⟩).length ≤ t.size) (s : σ) :
    IsLazy t p ⟨ids⟩ s (Rose.callsAll t.isText p (ids.map t.rose) s) where
  pulled n := Prod.mk.inj (take_of_records h (Records.refl p) hle n s)
  traced n := Prod.mk.inj (take_of_records h p.records_traced hle n s)
  ended n hn τ q u := by
    have hend : (take t p n ⟨ids⟩ s).2.1.pending = [] := pending_take_of_lt h n ⟨ids⟩ s hle hn
    rw [show (take t p n ⟨ids⟩ s).2.1 = ⟨[]⟩ from congrArg Search.mk hend]
    exact next?_nil t q u
  ends n := by
    have hfound := congrArg Prod.fst (take_of_records h (Records.refl p) hle n s)
    rw [show (take t p n ⟨ids⟩ s).1 = _ from hfound, Rose.outcome, Call.found_upTo,
      List.length_take]
    omega

/-- Searches are lazy, those that begin at a node and those that begin at its children. Pulled
some times, they make the calls that the recursion from the left to the right makes up to its last
match that is wanted. -/
theorem isLazy {t : Tree} (ht : t.Reachable) (p : Test σ) (id : NodeId) (s : σ) :
    IsLazy t p (start id) s ((t.rose id).calls t.isText p s) ∧
    IsLazy t p (below t id) s
      (if t.isText id then [] else Rose.callsAll t.isText p ((t.children id).map t.rose) s) := by
  have h := ht.linked
  constructor
  · have hlazy := isLazy_of_pending h p (length_ahead_start_le h id) s
    rw [List.map_singleton, Rose.callsAll, Rose.callsAll, List.append_nil] at hlazy
    exact hlazy
  · have hlt := length_ahead_below_lt h id []
    rw [List.append_nil] at hlt
    have hle := Nat.le_trans (Nat.le_of_lt hlt) (length_ahead_start_le h id)
    have hcalls : (if t.isText id then [] else
        Rose.callsAll t.isText p ((t.children id).map t.rose) s) =
          Rose.callsAll t.isText p ((below t id).pending.map t.rose) s := by
      rw [pending_below h]
      split <;> rfl
    rw [hcalls]
    exact isLazy_of_pending h p hle s

/-- The test that accepts every third node for which it is asked. -/
def everyThird : Test Nat :=
  fun _ n => (n % 3 == 2, n + 1)

/-- The third node of the list is the first item, so its text is not looked at. The calls for the
nodes behind it are not made before a second match is asked for. -/
theorem isLazy_twoItems : twoItems.Reachable ∧
    IsLazy twoItems everyThird (start Tree.root) 0
      [⟨0, 0, false, 1⟩, ⟨1, 1, false, 2⟩, ⟨2, 2, true, 3⟩, ⟨5, 3, false, 4⟩, ⟨6, 4, false, 5⟩] ∧
    (take twoItems everyThird.traced 1 (start Tree.root) (0, [])).2.2.2 =
      [⟨0, 0, false, 1⟩, ⟨1, 1, false, 2⟩, ⟨2, 2, true, 3⟩] := by
  have ht : twoItems.Reachable := ⟨_, _, rfl⟩
  have hcalls : (twoItems.rose Tree.root).calls twoItems.isText everyThird 0 =
      [⟨0, 0, false, 1⟩, ⟨1, 1, false, 2⟩, ⟨2, 2, true, 3⟩, ⟨5, 3, false, 4⟩,
        ⟨6, 4, false, 5⟩] := by
    decide +kernel
  have hlazy := (isLazy ht everyThird Tree.root 0).1
  rw [hcalls] at hlazy
  exact ⟨ht, hlazy, by rw [(hlazy.traced 1).2]; rfl⟩

end Search

end Hypertext
