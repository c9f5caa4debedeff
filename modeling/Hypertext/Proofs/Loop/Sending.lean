import Hypertext.Output.Sink
import Hypertext.Proofs.Loop.PlainText

/-!
# Writers that send at once

An output is put together first and sent to a sink when it is complete. A writer may as well send
what it writes for a task before it takes the next one, and give up the tasks that are left as soon
as the sink refuses (`Loop.sending`). The sink then holds the same and the same is reported, because
a sink that has refused gets nothing further (`Loop.Ends.sending`).

* `Markup.exists_sendingEnds`, `Tree.exists_plainSendingEnds`: so it is with the writers of markup
  and of plain text.
-/

namespace Hypertext

variable {τ : Type}

/-- Texts behind others: what comes behind a refused text is not written. -/
theorem Sink.writeTexts_append {s s' : Sink} {taken : Bool} : ∀ {xs : List String}
    (ys : List String), s.writeTexts xs = (s', taken) →
      s.writeTexts (xs ++ ys) = if taken then s'.writeTexts ys else (s', false)
  | [], _, h => by
    cases h
    rfl
  | x :: xs, ys, h => by
    rw [List.cons_append, writeTexts]
    rw [writeTexts] at h
    generalize s.writeAll (bytesOf x) = written at h ⊢
    obtain ⟨s'', _ | _⟩ := written
    · cases h
      rfl
    · exact writeTexts_append ys h

namespace Loop

/-- The loop of a writer that collects what it writes for its tasks. -/
def collecting (tasks : τ → List τ) (own : τ → List String) (fault : τ → Option Fault) :
    Loop τ (Array String) Output :=
  writing tasks (fun x writes => (writes ++ own x, fault x)) fun writes fault => { writes, fault }

/-- The loop of a writer that sends what it writes for a task to a sink, and gives up at the first
refusal. Whether it has a fault for a task is looked at when the sink has taken what it writes. -/
def sending (tasks : τ → List τ) (own : τ → List String) (fault : τ → Option Fault) :
    Loop τ Sink (Sink × Except WriteError Unit) where
  round x s :=
    match s.writeTexts (own x) with
    | (s, false) => .stop (tasks x) (s, .error .sinkFull)
    | (s, true) =>
      match fault x with
      | none => .next (tasks x) s
      | some f => .stop (tasks x) (s, .error (.fault f))
  finish s := (s, .ok ())

variable {tasks : τ → List τ} {own : τ → List String} {fault : τ → Option Fault}
  {pending taken left : List τ} {writes : Array String} {out : Output}

theorem round_collecting (x : τ) (writes : Array String) :
    (collecting tasks own fault).round x writes =
      match fault x with
      | none => .next (tasks x) (writes ++ own x)
      | some f => .stop (tasks x) { writes := writes ++ own x, fault := some f } := by
  simp only [collecting, writing]
  cases fault x <;> rfl

/-- What was written stays written. -/
theorem Ends.exists_more (hends : (collecting tasks own fault).Ends pending writes taken left out) :
    ∃ more, out.writes.toList = writes.toList ++ more := by
  induction hends with
  | done writes => exact ⟨[], (List.append_nil _).symm⟩
  | @stop x writes tasks' out rest hround =>
    rw [round_collecting] at hround
    split at hround <;> cases hround
    exact ⟨own x, Array.toList_appendList⟩
  | @next x writes writes' tasks' rest taken left out hround hrest ih =>
    rw [round_collecting] at hround
    split at hround <;> cases hround
    obtain ⟨more, hmore⟩ := ih
    exact ⟨own x ++ more, by rw [hmore, Array.toList_appendList, List.append_assoc]⟩

/-- A writer that sends at once brings a sink to where the complete output brings it. By induction
on the rounds of the writer that collects: what it has collected so far, the other one has sent. -/
theorem Ends.sending {s₀ s : Sink}
    (hends : (collecting tasks own fault).Ends pending writes taken left out)
    (hs : s₀.writeTexts writes.toList = (s, true)) : ∃ taken' left',
      (Loop.sending tasks own fault).Ends pending s taken' left' (out.into s₀) := by
  induction hends generalizing s with
  | done writes =>
    have hinto : (({ writes } : Output).into s₀) = (s, .ok ()) := by
      simp only [Output.into, hs, Output.report]
    exact ⟨[], [], hinto ▸ .done s⟩
  | @stop x writes tasks' out rest hround =>
    rw [round_collecting] at hround
    split at hround <;> cases hround
    next f hf =>
    have hsend := Sink.writeTexts_append (own x) hs
    rw [← Array.toList_appendList, if_pos rfl] at hsend
    have hround' : (Loop.sending tasks own fault).round x s =
        .stop (tasks x) (({ writes := writes ++ own x, fault := some f } : Output).into s₀) := by
      simp only [Loop.sending, Output.into, hsend, hf]
      obtain ⟨s', _ | _⟩ := s.writeTexts (own x) <;> rfl
    exact ⟨[x], _, .stop rest hround'⟩
  | @next x writes writes' tasks' rest taken left out hround hrest ih =>
    rw [round_collecting] at hround
    split at hround <;> cases hround
    next hf =>
    have hsend := Sink.writeTexts_append (own x) hs
    rw [← Array.toList_appendList, if_pos rfl] at hsend
    generalize hown : s.writeTexts (own x) = sent at hsend
    obtain ⟨s', _ | _⟩ := sent
    · -- The sink refuses a part of what is written for this task, so that it gets nothing further.
      obtain ⟨more, hmore⟩ := hrest.exists_more
      have hinto : out.into s₀ = (s', .error .sinkFull) := by
        simp only [Output.into, hmore, Sink.writeTexts_append more hsend, Bool.false_eq_true,
          if_false, Output.report]
      have hround' : (Loop.sending tasks own fault).round x s =
          .stop (tasks x) (out.into s₀) := by
        simp only [Loop.sending, hown, hinto]
      exact ⟨[x], _, .stop rest hround'⟩
    · obtain ⟨taken', left', hends'⟩ := ih hsend
      have hround' : (Loop.sending tasks own fault).round x s = .next (tasks x) s' := by
        simp only [Loop.sending, hown, hf]
      exact ⟨x :: taken', left', .next hround' hends'⟩

end Loop

variable {t : Tree} {kids : NodeId → List NodeId}

namespace Markup

/-- What is written for a task. -/
def Task.own (t : Tree) (task : Task) : List String :=
  (task.write t #[]).1.toList

/-- Why the writer stops at a task, if it does. -/
def Task.fault (t : Tree) (task : Task) : Option Fault :=
  (task.write t #[]).2

theorem Task.write_eq (t : Tree) (task : Task) (writes : Array String) :
    task.write t writes = (writes ++ task.own t, task.fault t) := by
  cases task with
  | close name => simp [Task.write, Task.own, Task.fault]
  | node id literal =>
    simp only [Task.write, Task.own, Task.fault]
    cases t.contentAt id with
    | element e =>
      simp only [writeElement]
      by_cases hv : Tag.isVoid e.tag
      · by_cases hf : (t.first? id).isSome <;> simp [hv, hf, append_writes]
      · cases dropsFirstNewline e.tag && startsWithNewline t id <;> simp [hv, append_writes]
    | _ => simp

/-- The writer of markup may as well send at once. -/
theorem exists_sendingEnds (h : t.Linked kids) (id : NodeId) (s : Sink) :
    ∃ taken left, (Loop.sending (Task.next t) (Task.own t) (Task.fault t)).Ends
      [.node id false] s taken left ((t.markup id).into s) := by
  obtain ⟨taken, left, hends, -⟩ := exists_ends h id
  have hloop : loop t = .collecting (Task.next t) (Task.own t) (Task.fault t) := by
    rw [loop, Loop.collecting]
    exact congrArg (Loop.writing _ · _) (funext fun task => funext (Task.write_eq t task))
  exact (hloop ▸ hends).sending rfl

end Markup

/-- The writer of plain text may as well send at once. -/
theorem Tree.exists_plainSendingEnds (h : Linked t kids) (id : NodeId) (s : Sink) :
    ∃ taken left, (Loop.sending t.plainTasks (fun x => (t.plainWrite? x).toList) fun _ => none).Ends
      [id] s taken left ((t.plainText id).into s) := by
  obtain ⟨taken, writes, hends, htext, -⟩ := exists_plainTextEnds h id
  have hround : ∀ x x' writes writes', x = x' → writes = writes' →
      Loop.InStep Eq Eq (fun writes out => out = ({ writes } : Output))
        (t.plainTextLoop.round x writes)
        ((Loop.collecting t.plainTasks (fun x => (t.plainWrite? x).toList) fun _ => none).round
          x' writes') := by
    rintro x _ writes _ rfl rfl
    simp only [plainTextLoop, Loop.writing, writePlain_eq, Loop.round_collecting]
    exact .next (List.forall₂_same.mpr fun _ _ => rfl) rfl
  obtain ⟨_, _, _, hends', -, -, rfl⟩ := hends.simulate hround
    (fun writes writes' hw => congrArg _ hw.symm) [id] #[]
    (List.forall₂_same.mpr fun _ _ => rfl) rfl
  rw [htext]
  exact hends'.sending rfl

end Hypertext
