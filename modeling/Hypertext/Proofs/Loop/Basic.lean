import Mathlib.Algebra.Ring.Nat
import Mathlib.Data.List.Forall2

/-!
# Loops over pending tasks

A loop takes the task in front of those that are pending. It goes on with further tasks in front of
the others, or it stops and leaves what is pending then; without a task it is finished. A `Loop`
says what one round does, and `Loop.Ends` that a loop ends, with the tasks that it takes on its
way; `Loop.Comes` is said of what a loop comes to before that. Nothing is said there of fuel: a run
that is given fuel for as many rounds carries the loop out (`Ends.run_eq`).

What is shown once here, for all loops over the nodes of a tree:

* `Fits.exists_ends`: a loop ends if its tasks have a weight, and each weighs more than the tasks
  that take its place;
* `Ends.sublist`: if each task stands for a list and the tasks that take its place for parts of it
  in order, the tasks that are taken stand for parts of what was pending at first, in order;
* `Ends.countP_add`: tasks of one kind are taken or left, as many as there were and came;
* `Ends.simulate`: loops whose rounds correspond to each other end in the same way.

A lazy loop stops with something found, and what it leaves is pending when it is pulled again
(`Loop.Pulls`).
-/

namespace Hypertext

variable {τ τ' σ σ' ρ ρ' : Type}

/-- What a loop does with a task: it goes on with further tasks in front, or it stops and leaves
them in front of those that are pending. -/
inductive Round (τ σ ρ : Type) where
  | next (tasks : List τ) (state : σ)
  | stop (tasks : List τ) (result : ρ)

/-- The tasks that take the place of the one that was taken. -/
def Round.tasks : Round τ σ ρ → List τ
  | .next tasks _ => tasks
  | .stop tasks _ => tasks

/-- A loop over pending tasks, with a state. -/
structure Loop (τ σ ρ : Type) where
  round : τ → σ → Round τ σ ρ
  /-- The result when no task is pending. -/
  finish : σ → ρ

namespace Loop

/-- From pending tasks and a state on, the loop takes these tasks in order, and then it ends with
tasks left and a result. -/
inductive Ends (L : Loop τ σ ρ) : List τ → σ → List τ → List τ → ρ → Prop where
  | done (s : σ) : Ends L [] s [] [] (L.finish s)
  | stop {x : τ} {s : σ} {tasks : List τ} {r : ρ} (rest : List τ)
      (h : L.round x s = .stop tasks r) : Ends L (x :: rest) s [x] (tasks ++ rest) r
  | next {x : τ} {s s' : σ} {tasks rest taken left : List τ} {r : ρ}
      (h : L.round x s = .next tasks s') (hrest : Ends L (tasks ++ rest) s' taken left r) :
      Ends L (x :: rest) s (x :: taken) left r

/-- From pending tasks and a state on, the loop comes round by round to these tasks and this
state. -/
inductive Comes (L : Loop τ σ ρ) (pending : List τ) (s : σ) : List τ → σ → Prop where
  | start : Comes L pending s pending s
  | next {x : τ} {tasks rest : List τ} {s' s'' : σ} (h : Comes L pending s (x :: rest) s')
      (hround : L.round x s' = .next tasks s'') : Comes L pending s (tasks ++ rest) s''

variable {L : Loop τ σ ρ} {pending taken left : List τ} {s : σ} {r : ρ}

/-! ## What a loop comes to -/

/-- What holds of the state at first and is kept by every round holds of all states that the loop
comes to. -/
theorem Comes.invariant {P : σ → Prop}
    (hround : ∀ x s tasks s', L.round x s = .next tasks s' → P s → P s') (hs : P s)
    {pending' : List τ} {s' : σ} (h : L.Comes pending s pending' s') : P s' := by
  induction h with
  | start => exact hs
  | next _ hx ih => exact hround _ _ _ _ hx ih

/-- What the loop comes to after its first round. -/
theorem Comes.of_next {x : τ} {tasks rest pending' : List τ} {s' s'' : σ}
    (hround : L.round x s = .next tasks s') (h : L.Comes (tasks ++ rest) s' pending' s'') :
    L.Comes (x :: rest) s pending' s'' := by
  induction h with
  | start => exact .next .start hround
  | next _ hx ih => exact .next ih hx

/-- A loop that ends comes to where it is finished or stops. -/
theorem Ends.exists_comes (hends : L.Ends pending s taken left r) :
    ∃ pending' s', L.Comes pending s pending' s' ∧
      (pending' = [] ∧ r = L.finish s' ∨
        ∃ x rest tasks, pending' = x :: rest ∧ L.round x s' = .stop tasks r) := by
  induction hends with
  | done s => exact ⟨[], s, .start, .inl ⟨rfl, rfl⟩⟩
  | stop rest hround => exact ⟨_, _, .start, .inr ⟨_, rest, _, rfl, hround⟩⟩
  | next hround _ ih =>
    obtain ⟨pending', s', hcomes, hlast⟩ := ih
    exact ⟨pending', s', hcomes.of_next hround, hlast⟩

/-! ## That a loop ends -/

/-- Each task weighs more than the tasks that take its place. -/
def Fits (L : Loop τ σ ρ) (weight : τ → Nat) : Prop :=
  ∀ x s, ((L.round x s).tasks.map weight).sum < weight x

/-- A loop whose tasks have a weight ends, after no more rounds than its tasks weigh. By induction
on what they weigh. -/
theorem Fits.exists_ends {weight : τ → Nat} (h : L.Fits weight) (pending : List τ) (s : σ) :
    ∃ taken left r, L.Ends pending s taken left r ∧
      taken.length + (left.map weight).sum ≤ (pending.map weight).sum := by
  induction hsum : (pending.map weight).sum using Nat.strongRecOn
    generalizing pending s with
  | ind n ih =>
    cases pending with
    | nil => exact ⟨[], [], _, .done s, Nat.zero_le n⟩
    | cons x rest =>
      rw [List.map_cons, List.sum_cons] at hsum
      have hx := h x s
      cases hround : L.round x s with
      | next tasks s' =>
        rw [hround, Round.tasks] at hx
        have hlt : ((tasks ++ rest).map weight).sum < n := by
          rw [List.map_append, List.sum_append]
          omega
        obtain ⟨taken, left, r, hends, hle⟩ := ih _ hlt (tasks ++ rest) s' rfl
        refine ⟨x :: taken, left, r, .next hround hends, ?_⟩
        rw [List.length_cons]
        omega
      | stop tasks r =>
        rw [hround, Round.tasks] at hx
        refine ⟨[x], tasks ++ rest, r, .stop rest hround, ?_⟩
        rw [List.length_singleton, List.map_append, List.sum_append]
        omega

/-- What no round stops with comes out only when nothing is left. -/
theorem Ends.left_eq_nil {P : ρ → Prop}
    (h : ∀ x s tasks r, L.round x s = .stop tasks r → ¬ P r)
    (hends : L.Ends pending s taken left r) (hr : P r) : left = [] := by
  induction hends with
  | done s => rfl
  | stop rest hround => exact absurd hr (h _ _ _ _ hround)
  | next _ _ ih => exact ih hr

/-! ## What is taken on the way -/

/-- Where each task stands for a list of its own parts and those of the tasks that take its place,
in order, the tasks that are taken and left stand for parts of what was pending, in order. -/
theorem Ends.sublist {κ : Type} {own parts : τ → List κ}
    (h : ∀ x s, (own x ++ (L.round x s).tasks.flatMap parts).Sublist (parts x))
    (hends : L.Ends pending s taken left r) :
    (taken.flatMap own ++ left.flatMap parts).Sublist (pending.flatMap parts) := by
  induction hends with
  | done s => exact List.Sublist.refl _
  | @stop x s tasks r rest hround =>
    have hx := h x s
    rw [hround, Round.tasks] at hx
    rw [List.flatMap_singleton, List.flatMap_append, List.flatMap_cons, ← List.append_assoc]
    exact hx.append_right _
  | @next x s s' tasks rest taken left r hround _ ih =>
    have hx := h x s
    rw [hround, Round.tasks] at hx
    rw [List.flatMap_append] at ih
    rw [List.flatMap_cons, List.flatMap_cons, List.append_assoc]
    refine List.Sublist.trans (ih.append_left (own x)) ?_
    rw [← List.append_assoc]
    exact hx.append_right _

/-- Where no task stands for nothing of its own, the tasks weigh as much as they stand for. -/
theorem fits_of_sublist {κ : Type} {own parts : τ → List κ}
    (h : ∀ x s, (own x ++ (L.round x s).tasks.flatMap parts).Sublist (parts x))
    (hown : ∀ x, own x ≠ []) : L.Fits fun x => (parts x).length := by
  intro x s
  have hle := (h x s).length_le
  have hpos := List.length_pos_iff.mpr (hown x)
  rw [List.length_append, List.length_flatMap] at hle
  show _ < (parts x).length
  omega

/-- Tasks of one kind are taken or left: those that were pending, and one for each task taken that
brings such a task with it. -/
theorem Ends.countP_add {kind brings : τ → Bool}
    (h : ∀ x s, (L.round x s).tasks.countP kind = if brings x then 1 else 0)
    (hends : L.Ends pending s taken left r) :
    taken.countP kind + left.countP kind = pending.countP kind + taken.countP brings := by
  induction hends with
  | done s => rfl
  | @stop x s tasks r rest hround =>
    have hx := h x s
    rw [hround, Round.tasks] at hx
    rw [List.countP_append, List.countP_cons, List.countP_cons, List.countP_nil,
      List.countP_cons, List.countP_nil, hx]
    omega
  | @next x s s' tasks rest taken left r hround _ ih =>
    have hx := h x s
    rw [hround, Round.tasks] at hx
    rw [List.countP_append, hx] at ih
    rw [List.countP_cons, List.countP_cons, List.countP_cons]
    omega

/-! ## Runs with fuel -/

/-- The run does what the loop does, one round for each unit of fuel, and reports what is left and
the result. -/
structure CarriedOut {γ : Type} (L : Loop τ σ ρ) (run : Nat → List τ → σ → γ)
    (report : List τ → ρ → γ) : Prop where
  done : ∀ n s, run n [] s = report [] (L.finish s)
  step : ∀ n x rest s, run (n + 1) (x :: rest) s =
    match L.round x s with
    | .next tasks s' => run n (tasks ++ rest) s'
    | .stop tasks r => report (tasks ++ rest) r

/-- With fuel for as many rounds as the loop takes, the run reports what the loop ends with. -/
theorem Ends.run_eq {γ : Type} {run : Nat → List τ → σ → γ} {report : List τ → ρ → γ}
    (hends : L.Ends pending s taken left r) (h : L.CarriedOut run report) {n : Nat}
    (hn : taken.length ≤ n) : run n pending s = report left r := by
  induction hends generalizing n with
  | done s => exact h.done n s
  | @stop x s tasks r rest hround =>
    obtain ⟨m, rfl⟩ : ∃ m, n = m + 1 := Nat.exists_eq_add_of_le' hn
    rw [h.step, hround]
  | @next x s s' tasks rest taken left r hround _ ih =>
    rw [List.length_cons] at hn
    obtain ⟨m, rfl⟩ := Nat.exists_eq_add_of_le' (Nat.le_of_add_left_le hn)
    rw [h.step, hround]
    exact ih (by omega)

/-- A loop ends in one way only. -/
theorem Ends.unique (hends : L.Ends pending s taken left r) : ∀ {taken' left' : List τ} {r' : ρ},
    L.Ends pending s taken' left' r' → taken = taken' ∧ left = left' ∧ r = r' := by
  induction hends with
  | done s =>
    intro taken' left' r' hends'
    cases hends'
    exact ⟨rfl, rfl, rfl⟩
  | stop rest hround =>
    intro taken' left' r' hends'
    cases hends' with
    | stop _ hround' =>
      rw [hround] at hround'
      cases hround'
      exact ⟨rfl, rfl, rfl⟩
    | next hround' _ =>
      rw [hround] at hround'
      cases hround'
  | @next x s s' tasks rest taken left r hround _ ih =>
    intro taken' left' r' hends'
    cases hends' with
    | stop _ hround' =>
      rw [hround] at hround'
      cases hround'
    | next hround' hrest' =>
      rw [hround] at hround'
      cases hround'
      obtain ⟨rfl, hleft, hr⟩ := ih hrest'
      exact ⟨rfl, hleft, hr⟩

/-! ## Two loops in step -/

/-- Two rounds correspond: both go on or both stop, with corresponding tasks, states and
results. -/
inductive InStep (R : τ → τ' → Prop) (S : σ → σ' → Prop) (Q : ρ → ρ' → Prop) :
    Round τ σ ρ → Round τ' σ' ρ' → Prop where
  | next {tasks : List τ} {tasks' : List τ'} {s : σ} {s' : σ'} (h : List.Forall₂ R tasks tasks')
      (hs : S s s') : InStep R S Q (.next tasks s) (.next tasks' s')
  | stop {tasks : List τ} {tasks' : List τ'} {r : ρ} {r' : ρ'} (h : List.Forall₂ R tasks tasks')
      (hr : Q r r') : InStep R S Q (.stop tasks r) (.stop tasks' r')

/-- Loops in step end in step: with corresponding tasks taken and left, and corresponding
results. By induction on the rounds of the first. -/
theorem Ends.simulate {L' : Loop τ' σ' ρ'} {R : τ → τ' → Prop} {S : σ → σ' → Prop}
    {Q : ρ → ρ' → Prop}
    (hround : ∀ x x' s s', R x x' → S s s' → InStep R S Q (L.round x s) (L'.round x' s'))
    (hfinish : ∀ s s', S s s' → Q (L.finish s) (L'.finish s'))
    (hends : L.Ends pending s taken left r) : ∀ (pending' : List τ') (s' : σ'),
      List.Forall₂ R pending pending' → S s s' → ∃ taken' left' r',
        L'.Ends pending' s' taken' left' r' ∧ List.Forall₂ R taken taken' ∧
          List.Forall₂ R left left' ∧ Q r r' := by
  induction hends with
  | done s =>
    intro pending' s' hpending hs
    cases hpending
    exact ⟨[], [], _, .done s', .nil, .nil, hfinish s s' hs⟩
  | @stop x s tasks r rest hx =>
    intro pending' s' hpending hs
    obtain _ | @⟨_, x', _, rest', hxx', hrest⟩ := hpending
    have hstep := hround x x' s s' hxx' hs
    rw [hx] at hstep
    generalize hx' : L'.round x' s' = round' at hstep
    cases hstep with
    | stop htasks hr =>
      exact ⟨[x'], _, _, .stop rest' hx', .cons hxx' .nil, List.rel_append htasks hrest, hr⟩
  | @next x s s₁ tasks rest taken left r hx _ ih =>
    intro pending' s' hpending hs
    obtain _ | @⟨_, x', _, rest', hxx', hrest⟩ := hpending
    have hstep := hround x x' s s' hxx' hs
    rw [hx] at hstep
    generalize hx' : L'.round x' s' = round' at hstep
    cases hstep with
    | next htasks hs₁ =>
      obtain ⟨taken', left', r', hends', htaken, hleft, hr⟩ :=
        ih _ _ (List.rel_append htasks hrest) hs₁
      exact ⟨x' :: taken', left', r', .next hx' hends', .cons hxx' htaken, hleft, hr⟩

/-! ## Lazy loops -/

section Lazy

variable {β β' : Type} {L : Loop τ σ (Option β × σ)} {n : Nat} {s₁ : σ} {found : List β}

/-- Pulled at most so many times, until nothing more is found, the loop takes these tasks in
order, finds these things and ends with tasks left and a state. -/
inductive Pulls (L : Loop τ σ (Option β × σ)) :
    Nat → List τ → σ → List τ → List β → List τ → σ → Prop where
  | enough (pending : List τ) (s : σ) : Pulls L 0 pending s [] [] pending s
  | last {pending taken left : List τ} {s s' : σ} (n : Nat)
      (h : L.Ends pending s taken left (none, s')) : Pulls L (n + 1) pending s taken [] left s'
  | more {n : Nat} {pending taken left taken' left' : List τ} {s s' s'' : σ} {b : β}
      {found : List β} (h : L.Ends pending s taken left (some b, s'))
      (hrest : Pulls L n left s' taken' found left' s'') :
      Pulls L (n + 1) pending s (taken ++ taken') (b :: found) left' s''

/-- A loop whose tasks have a weight can be pulled as often as one likes, and takes no more tasks
than its tasks weigh. -/
theorem Fits.exists_pulls {weight : τ → Nat} (h : L.Fits weight) (n : Nat) :
    ∀ (pending : List τ) (s : σ), ∃ taken found left s',
      L.Pulls n pending s taken found left s' ∧
        taken.length + (left.map weight).sum ≤ (pending.map weight).sum := by
  induction n with
  | zero =>
    intro pending s
    exact ⟨[], [], pending, s, .enough pending s, Nat.le_of_eq (Nat.zero_add _)⟩
  | succ n ih =>
    intro pending s
    obtain ⟨taken, left, ⟨_ | b, s'⟩, hends, hle⟩ := h.exists_ends pending s
    · exact ⟨taken, [], left, s', .last n hends, hle⟩
    · obtain ⟨taken', found, left', s'', hmore, hle'⟩ := ih left s'
      refine ⟨taken ++ taken', b :: found, left', s'', .more hends hmore, ?_⟩
      rw [List.length_append]
      omega

/-- Less is found than was asked for only when nothing is left. -/
theorem Pulls.left_eq_nil (h : ∀ x s tasks r, L.round x s = .stop tasks r → r.1 ≠ none)
    (hpulls : L.Pulls n pending s taken found left s₁) (hn : found.length < n) : left = [] := by
  induction hpulls with
  | enough pending s => exact absurd hn (Nat.not_lt_zero _)
  | last n hends => exact hends.left_eq_nil (P := fun r => r.1 = none) h rfl
  | more _ _ ih => exact ih (Nat.lt_of_succ_lt_succ hn)

/-- Over all pulls, the tasks that are taken and left stand for parts of what was pending at
first, in order. -/
theorem Pulls.sublist {κ : Type} {own parts : τ → List κ}
    (h : ∀ x s, (own x ++ (L.round x s).tasks.flatMap parts).Sublist (parts x))
    (hpulls : L.Pulls n pending s taken found left s₁) :
    (taken.flatMap own ++ left.flatMap parts).Sublist (pending.flatMap parts) := by
  induction hpulls with
  | enough pending s => exact List.Sublist.refl _
  | last n hends => exact hends.sublist h
  | more hends _ ih =>
    have hfirst := hends.sublist h
    rw [List.flatMap_append, List.append_assoc]
    exact (ih.append_left _).trans hfirst

/-- Lazy loops in step find corresponding things, however often they are pulled. -/
theorem Pulls.simulate {L' : Loop τ' σ' (Option β' × σ')} {R : τ → τ' → Prop}
    {S : σ → σ' → Prop} {Q : β → β' → Prop}
    (hround : ∀ x x' s s', R x x' → S s s' →
      InStep R S (fun r r' => Option.Rel Q r.1 r'.1 ∧ S r.2 r'.2) (L.round x s) (L'.round x' s'))
    (hfinish : ∀ s s', S s s' →
      Option.Rel Q (L.finish s).1 (L'.finish s').1 ∧ S (L.finish s).2 (L'.finish s').2)
    (hpulls : L.Pulls n pending s taken found left s₁) : ∀ (pending' : List τ') (s' : σ'),
      List.Forall₂ R pending pending' → S s s' → ∃ taken' found' left' s₁',
        L'.Pulls n pending' s' taken' found' left' s₁' ∧ List.Forall₂ R taken taken' ∧
          List.Forall₂ Q found found' ∧ List.Forall₂ R left left' ∧ S s₁ s₁' := by
  induction hpulls with
  | enough pending s =>
    intro pending' s' hpending hs
    exact ⟨[], [], pending', s', .enough pending' s', .nil, .nil, hpending, hs⟩
  | last n hends =>
    intro pending' s' hpending hs
    obtain ⟨taken', left', ⟨r', s₁'⟩, hends', htaken, hleft, hr, hs₁⟩ :=
      hends.simulate hround hfinish pending' s' hpending hs
    cases hr
    exact ⟨taken', [], left', s₁', .last n hends', htaken, .nil, hleft, hs₁⟩
  | more hends _ ih =>
    intro pending' s' hpending hs
    obtain ⟨taken', left', ⟨r', s₁'⟩, hends', htaken, hleft, hr, hs₁⟩ :=
      hends.simulate hround hfinish pending' s' hpending hs
    obtain @⟨b, b', hb⟩ | _ := hr
    obtain ⟨taken'', found', left'', s₂', hmore, htaken', hfound, hleft', hs₂⟩ :=
      ih left' s₁' hleft hs₁
    exact ⟨taken' ++ taken'', b' :: found', left'', s₂', .more hends' hmore,
      List.rel_append htaken htaken', .cons hb hfound, hleft', hs₂⟩

end Lazy

end Loop

end Hypertext
