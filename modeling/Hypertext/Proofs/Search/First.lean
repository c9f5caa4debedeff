import Hypertext.Proofs.Search.Calls

/-!
# The first match

A search does not look below a match, so it leaves out nodes. It leaves out none before its first
match: up to there its calls are those that are made on the nodes that are shown, in their order
(`Rose.upTo_one_calls`). Hence without a state the first match is the first of the nodes that are
shown and satisfy the test.

When only elements are tested, the calls are those on the elements among them (`first?_eq_find?`).
-/

namespace Hypertext

namespace Call

variable {α σ : Type} {p : α → σ → Bool × σ} {xs ys : List (Call α σ)}

/-- The calls of a test on values one after another, whatever the answers are. -/
def inOrder (p : α → σ → Bool × σ) : List α → σ → List (Call α σ)
  | [], _ => []
  | a :: rest, s => .of p a s :: inOrder p rest (p a s).2

theorem inOrder_append (p : α → σ → Bool × σ) : ∀ (as bs : List α) (s : σ),
    inOrder p (as ++ bs) s = inOrder p as s ++ inOrder p bs (stateAfter s (inOrder p as s))
  | [], _, _ => rfl
  | a :: as, bs, s => by
    rw [List.cons_append, inOrder, inOrder, inOrder_append p as bs, List.cons_append]
    rfl

theorem exists_of_mem_inOrder {c : Call α σ} : ∀ {as : List α} {s : σ}, c ∈ inOrder p as s →
    ∃ a s', c = .of p a s'
  | a :: as, s, h => by
    rcases List.mem_cons.mp h with rfl | h
    · exact ⟨a, s, rfl⟩
    · exact exists_of_mem_inOrder h

/-- Calls that begin alike, up to the first match, want alike for a match. -/
theorem wanted_of_upTo_one (h : upTo 1 xs = upTo 1 ys) :
    1 - (found xs).length = 1 - (found ys).length := by
  have hlength := congrArg (fun calls => (found calls).length) h
  simp only [found_upTo, List.length_take] at hlength
  omega

/-- Without a match, calls that begin alike are the same. -/
theorem eq_of_upTo_one (h : upTo 1 xs = upTo 1 ys) (hnone : (found xs).length = 0) : xs = ys := by
  have hwanted := wanted_of_upTo_one h
  rwa [upTo_of_length_lt (by omega), upTo_of_length_lt (by omega)] at h

/-- Calls that are no matches may be dropped before or after. -/
theorem filter_upTo {keep : Call α σ → Bool} (n : Nat) (hkeep : ∀ c ∈ xs, c.answer → keep c) :
    (upTo n xs).filter keep = upTo n (xs.filter keep) := by
  induction xs generalizing n with
  | nil => rw [upTo_nil, List.filter_nil, upTo_nil]
  | cons c xs ih =>
    have ih := fun n => ih n fun x hx => hkeep x (List.mem_cons_of_mem c hx)
    cases n with
    | zero => rw [upTo_zero, upTo_zero, List.filter_nil]
    | succ n =>
      cases h : c.answer with
      | true =>
        have hc := hkeep c List.mem_cons_self h
        rw [upTo_cons_yes h, List.filter_cons_of_pos hc, List.filter_cons_of_pos hc,
          upTo_cons_yes h, ih]
      | false =>
        rw [upTo_cons_no h]
        by_cases hc : keep c
        · rw [List.filter_cons_of_pos hc, List.filter_cons_of_pos hc, upTo_cons_no h, ih]
        · rw [List.filter_cons_of_neg hc, List.filter_cons_of_neg hc, ih]

end Call

namespace Rose

variable {α σ : Type} {leaf : α → Bool} {p : α → σ → Bool × σ}

theorem upTo_one_callsAll : ∀ (rs : List (Rose α)) (s : σ),
    (∀ r ∈ rs, ∀ s, Call.upTo 1 (r.calls leaf p s) =
      Call.upTo 1 (Call.inOrder p (r.reached leaf) s)) →
    Call.upTo 1 (callsAll leaf p rs s) =
      Call.upTo 1 (Call.inOrder p (rs.flatMap (reached leaf)) s)
  | [], _, _ => rfl
  | r :: rest, s, h => by
    have hr := h r List.mem_cons_self s
    have hrest := fun s => upTo_one_callsAll rest s fun x hx => h x (List.mem_cons_of_mem r hx)
    rw [callsAll, List.flatMap_cons, Call.inOrder_append, Call.upTo_append, Call.upTo_append, hr,
      Call.wanted_of_upTo_one hr.symm]
    congr 1
    rcases Nat.eq_zero_or_pos (Call.found (r.calls leaf p s)).length with hnone | hsome
    · -- There is no match yet, so the calls behind begin in the same state.
      rw [← Call.eq_of_upTo_one hr hnone, hnone]
      exact hrest _
    · rw [Nat.sub_eq_zero_of_le hsome, Call.upTo_zero, Call.upTo_zero]

/-- Up to the first match, a search calls on the values that a walk meets. What it skips are values
below a match. -/
theorem upTo_one_calls (r : Rose α) (s : σ) : Call.upTo 1 (r.calls leaf p s) =
    Call.upTo 1 (Call.inOrder p (r.reached leaf) s) := by
  induction r generalizing s with
  | node value below ih =>
    rw [calls, reached_node, Call.inOrder]
    cases hanswer : (p value s).1 with
    | true =>
      have hyes : (Call.of p value s).answer = true := hanswer
      rw [Call.upTo_cons_yes hyes, Call.upTo_cons_yes hyes, Call.upTo_zero, Call.upTo_zero]
    | false =>
      have hno : (Call.of p value s).answer = false := hanswer
      rw [Call.upTo_cons_no hno, Call.upTo_cons_no hno, Bool.false_or]
      by_cases hleaf : leaf value
      · rw [if_pos hleaf, if_pos hleaf, Call.inOrder]
      · rw [if_neg hleaf, if_neg hleaf, upTo_one_callsAll below _ ih]

end Rose

/-- The test of elements that records only the calls that are made on elements. -/
theorem Test.records_onElements {σ : Type} (t : Tree) (p : Test σ) :
    Records (Test.onElements t p) (fun s calls => (s, calls.filter fun c => t.isElement c.value))
      (Test.onElements t p.traced) := by
  intro id s calls
  simp only [Test.onElements, Call.of, List.filter_append]
  by_cases h : t.isElement id <;> simp [h, Test.traced, Call.of]

theorem Test.onElements_pure {σ : Type} (t : Tree) (p : NodeId → Bool) :
    Test.onElements t (Test.pure p : Test σ) = Test.pure fun id => t.isElement id && p id := by
  funext id s
  rw [Test.onElements, Test.pure, Test.pure]
  by_cases h : t.isElement id <;> simp [h]

namespace Search

variable {σ τ : Type} {t : Tree} {kids : NodeId → List NodeId} {p : Test σ} {q : Test τ}
  {view : σ → List (Call NodeId σ) → τ}

/-- The first match is the first one on the nodes that are shown, and the calls for it are those up
to there. -/
theorem first?_of_records (h : t.Linked kids) (hq : Records p view q) (id : NodeId) (s : σ) :
    first? t q id (view s []) =
      let made := Call.upTo 1 (Call.inOrder p (t.shown id) s)
      ((Call.found (Call.inOrder p (t.shown id) s)).head?, view (Call.stateAfter s made) made) := by
  have htake := take_of_records h hq (length_ahead_start_le h id) 1 s
  rw [List.map_singleton, Rose.callsAll, Rose.callsAll, List.append_nil, Rose.upTo_one_calls,
    Rose.outcome, List.nil_append, Call.found_upTo] at htake
  obtain ⟨hfound, hstate⟩ := Prod.mk.inj htake
  rw [first?_eq_take, start, hfound, hstate, List.head?_take, if_neg Nat.one_ne_zero]
  rfl

/-- Of the calls of a test of elements, those on elements are its calls on the elements. -/
theorem filter_inOrder_onElements (t : Tree) (p : Test σ) : ∀ (ids : List NodeId) (s : σ),
    (Call.inOrder (Test.onElements t p) ids s).filter (fun c => t.isElement c.value) =
      Call.inOrder p (ids.filter t.isElement) s
  | [], _ => rfl
  | id :: ids, s => by
    have ih := filter_inOrder_onElements t p ids
    rw [Call.inOrder]
    by_cases helement : t.isElement id
    · have hcall : Call.of (Test.onElements t p) id s = .of p id s := by
        rw [Call.of, Call.of, Test.onElements, if_pos helement]
      have hkeep : t.isElement (Call.of p id s).value := helement
      rw [hcall, List.filter_cons_of_pos helement, List.filter_cons, if_pos hkeep, Call.inOrder,
        Test.onElements, if_pos helement, ih]
    · have hdrop : ¬ t.isElement (Call.of (Test.onElements t p) id s).value := helement
      rw [List.filter_cons_of_neg helement, List.filter_cons, if_neg hdrop, Test.onElements,
        if_neg helement, ih]

/-- So it is up to a match, as all matches are elements. -/
theorem filter_upTo_onElements (t : Tree) (p : Test σ) (n : Nat) (ids : List NodeId) (s : σ) :
    (Call.upTo n (Call.inOrder (Test.onElements t p) ids s)).filter
        (fun c => t.isElement c.value) =
      Call.upTo n (Call.inOrder p (ids.filter t.isElement) s) := by
  rw [← filter_inOrder_onElements]
  refine Call.filter_upTo n fun c hc hyes => ?_
  obtain ⟨id, s', rfl⟩ := Call.exists_of_mem_inOrder hc
  by_contra hno
  have helement : ¬ t.isElement id := hno
  rw [Call.of, Test.onElements, if_neg helement] at hyes
  cases hyes

/-! ## Without a state -/

theorem found_inOrder_pure (p : NodeId → Bool) (s : σ) : ∀ ids : List NodeId,
    Call.found (Call.inOrder (Test.pure p) ids s) = ids.filter p
  | [] => rfl
  | id :: ids => by
    have ih := found_inOrder_pure p s ids
    rw [Call.inOrder]
    by_cases hp : p id
    · rw [Call.found_cons_yes hp, List.filter_cons_of_pos hp]
      exact congrArg _ ih
    · rw [Call.found_cons_no (Bool.eq_false_iff.mpr hp), List.filter_cons_of_neg hp]
      exact ih

theorem stateAfter_inOrder_pure (p : NodeId → Bool) (s : σ) (n : Nat) (ids : List NodeId) :
    Call.stateAfter s (Call.upTo n (Call.inOrder (Test.pure p) ids s)) = s := by
  induction ids generalizing n with
  | nil => rw [Call.inOrder, Call.upTo_nil, Call.stateAfter, List.foldl_nil]
  | cons _ _ ih =>
    cases n with
    | zero => rw [Call.upTo_zero, Call.stateAfter, List.foldl_nil]
    | succ n => exact ih _

theorem first?_pure (h : t.Linked kids) (p : NodeId → Bool) (id : NodeId) (s : σ) :
    first? t (Test.pure p) id s = ((t.shown id).find? p, s) := by
  have hfirst := first?_of_records h (Records.refl (Test.pure p)) id s
  simp only [found_inOrder_pure, stateAfter_inOrder_pure, List.head?_filter] at hfirst
  exact hfirst

/-- Without a state, the first match is the first node that is shown and satisfies `p`, if there is
one. When only elements are tested, it is the first element that is shown and satisfies `p`; the
calls of `p` are those on the elements that are shown, once each and in their order, up to it. -/
theorem first?_eq_find? {t : Tree} (ht : t.Reachable) (p : NodeId → Bool) (id : NodeId) (s : σ) :
    let shown := t.shown id
    let elements := shown.filter t.isElement
    t.Lists id shown (fun x => ∀ a, t.StrictlyAbove id a x → ¬ t.isText a) ∧
    t.Lists id elements
      (fun x => (∀ a, t.StrictlyAbove id a x → ¬ t.isText a) ∧ t.isElement x) ∧
    first? t (Test.pure p) id s = (shown.find? p, s) ∧
    ((first? t (Test.pure p) id s).1 = none ↔ ∀ x ∈ shown, ¬ p x) ∧
    first? t (Test.onElements t (Test.pure p)) id s = (elements.find? p, s) ∧
    first? t (Test.onElements t (Test.pure p).traced) id (s, []) =
      (elements.find? p, s, Call.upTo 1 (Call.inOrder (Test.pure p) elements s)) := by
  have h := ht.linked
  have helements : (t.shown id).find? (fun x => t.isElement x && p x) =
      ((t.shown id).filter t.isElement).find? p := by
    rw [List.find?_filter]
    simp only [Bool.decide_and, Bool.decide_eq_true]
  have hlists := h.lists_reached t.isText id
  refine ⟨hlists, hlists.filter t.isElement, first?_pure h p id s, ?_, ?_, ?_⟩
  · rw [first?_pure h, List.find?_eq_none]
  · rw [Test.onElements_pure, first?_pure h, helements]
  · have hfirst := first?_of_records h (Test.records_onElements t (Test.pure p)) id s
    simp only [filter_upTo_onElements] at hfirst
    rw [Test.onElements_pure, found_inOrder_pure, stateAfter_inOrder_pure, List.head?_filter,
      helements] at hfirst
    exact hfirst

/-- Of the nodes from 3 on, the first is the text of the first item. The first element is the second
item, as the element below that text is not shown; it is not asked about either. -/
theorem first?_twoItems : twoItems.Reachable ∧
    first? twoItems (Test.pure (· ≥ 3)) Tree.root () = (some 3, ()) ∧
    first? twoItems (Test.onElements twoItems (Test.pure (· ≥ 3)).traced) Tree.root ((), []) =
      (some 5, (), [⟨1, (), false, ()⟩, ⟨2, (), false, ()⟩, ⟨5, (), true, ()⟩]) := by
  have ht : twoItems.Reachable := ⟨_, _, rfl⟩
  obtain ⟨-, -, hfirst, -, -, htraced⟩ := first?_eq_find? ht (· ≥ 3) Tree.root ()
  exact ⟨ht, hfirst.trans (by decide +kernel), htraced.trans (by decide +kernel)⟩

end Search

end Hypertext
