import Mathlib.Algebra.BigOperators.Ring.List
import Mathlib.Algebra.Ring.Nat
import Hypertext.Proofs.Loop.Traversal
import Hypertext.Proofs.Writer.Layout
import Hypertext.Writer.PlainText

/-!
# The loops of the writers

A writer takes a task, writes something for it and puts further tasks in its place, which depend on
the task alone (`Loop.writing`); a fault stops it. For a node these tasks are its children, and
behind them the end tag if an element is opened. So a writer ends, meets no node twice, and takes
one end tag for each element that it opens.

* `Tree.exists_plainTextEnds`, `Markup.exists_ends`, `Layout.exists_ends`: what the writers of plain
  text, of markup and of layouts write is what their loops end with.
-/

namespace Hypertext

variable {τ σ ρ : Type}

namespace Loop

/-- The loop of a writer: what a task writes, the tasks that it puts in its place, and the result
with the fault that stopped the writer, if there was one. -/
def writing (tasks : τ → List τ) (write : τ → σ → σ × Option Fault)
    (result : σ → Option Fault → ρ) : Loop τ σ ρ where
  round x s :=
    match write x s with
    | (s, none) => .next (tasks x) s
    | (s, some f) => .stop (tasks x) (result s (some f))
  finish s := result s none

variable {tasks : τ → List τ} {write : τ → σ → σ × Option Fault} {result : σ → Option Fault → ρ}

theorem tasks_writing (x : τ) (s : σ) :
    ((writing tasks write result).round x s).tasks = tasks x := by
  simp only [writing]
  obtain ⟨s', _ | f⟩ := write x s <;> rfl

theorem writing_fits {weight : τ → Nat} (h : ∀ x, ((tasks x).map weight).sum < weight x) :
    (writing tasks write result).Fits weight := fun x s => by
  rw [tasks_writing]
  exact h x

theorem writing_sublist {κ : Type} (own : τ → List κ) {parts : τ → List κ}
    (h : ∀ x, (own x ++ (tasks x).flatMap parts).Sublist (parts x)) (x : τ) (s : σ) :
    (own x ++ ((writing tasks write result).round x s).tasks.flatMap parts).Sublist (parts x) := by
  rw [tasks_writing]
  exact h x

theorem writing_countP {kind brings : τ → Bool}
    (h : ∀ x, (tasks x).countP kind = if brings x then 1 else 0) (x : τ) (s : σ) :
    ((writing tasks write result).round x s).tasks.countP kind = if brings x then 1 else 0 := by
  rw [tasks_writing]
  exact h x

/-- A writer stops at a fault only. -/
theorem writing_stop {x : τ} {s : σ} {tasks' : List τ} {r : ρ}
    (hround : (writing tasks write result).round x s = .stop tasks' r) :
    ∃ f, (write x s).2 = some f ∧ r = result (write x s).1 (some f) := by
  simp only [writing] at hround
  split at hround
  · cases hround
  · next s' f hwrite =>
    cases hround
    exact ⟨f, by rw [hwrite], by rw [hwrite]⟩

/-- Without a fault it goes on with what it has written. -/
theorem writing_next {x : τ} {s s' : σ} {tasks' : List τ}
    (hround : (writing tasks write result).round x s = .next tasks' s') :
    write x s = (s', none) ∧ tasks' = tasks x := by
  simp only [writing] at hround
  split at hround <;> cases hround
  next hwrite => exact ⟨hwrite, rfl⟩

/-- A writer that no fault stops takes all tasks that are pending and all that come in the place of
one that it takes. None of them brings up a fault where it is taken, and what they write in order is
what the writer has written. -/
theorem writing_ends_none {pending taken left : List τ} {s : σ} {r : ρ}
    (hends : (writing tasks write result).Ends pending s taken left r)
    (hr : ∀ s f, result s (some f) ≠ r) :
    (∀ x ∈ pending, x ∈ taken) ∧ (∀ x ∈ taken, ∀ y ∈ tasks x, y ∈ taken) ∧
      (∀ before x after, taken = before ++ x :: after →
        (write x (before.foldl (fun s x => (write x s).1) s)).2 = none) ∧
      r = result (taken.foldl (fun s x => (write x s).1) s) none := by
  induction hends with
  | done s =>
    refine ⟨fun _ hx => hx, fun _ hx => absurd hx List.not_mem_nil,
      fun before x after hx => ?_, rfl⟩
    exact absurd hx.symm (List.append_ne_nil_of_right_ne_nil before (List.cons_ne_nil x after))
  | stop rest hround =>
    obtain ⟨f, -, rfl⟩ := writing_stop hround
    exact absurd rfl (hr _ f)
  | @next x s s' tasks' rest taken left r hround _ ih =>
    obtain ⟨hwrite, rfl⟩ := writing_next hround
    obtain ⟨hpending, htasks, hnone, hresult⟩ := ih hr
    refine ⟨fun y hy => ?_, fun y hy z hz => ?_, fun before y after htaken => ?_, ?_⟩
    · rcases List.mem_cons.mp hy with rfl | hy
      · exact List.mem_cons_self
      · exact List.mem_cons_of_mem x (hpending y (List.mem_append_right _ hy))
    · rcases List.mem_cons.mp hy with rfl | hy
      · exact List.mem_cons_of_mem y (hpending z (List.mem_append_left _ hz))
      · exact List.mem_cons_of_mem x (htasks y hy z hz)
    · cases before with
      | nil =>
        cases htaken
        rw [List.foldl_nil, hwrite]
      | cons z before =>
        cases htaken
        rw [List.foldl_cons, hwrite]
        exact hnone before y after rfl
    · rw [hresult, List.foldl_cons, hwrite]

/-- Two writers in step end with the same result, if they end. -/
theorem writing_ends_eq {τ' : Type} {tasks' : τ' → List τ'}
    {write' : τ' → σ → σ × Option Fault} {R : τ → τ' → Prop}
    (hnext : ∀ x x', R x x' → List.Forall₂ R (tasks x) (tasks' x'))
    (hwrite : ∀ x x' s, R x x' → write x s = write' x' s) {pending taken left : List τ}
    {pending' taken' left' : List τ'} {s : σ} {r r' : ρ}
    (hpending : List.Forall₂ R pending pending')
    (hends : (writing tasks write result).Ends pending s taken left r)
    (hends' : (writing tasks' write' result).Ends pending' s taken' left' r') : r = r' := by
  have hround : ∀ x x' s s', R x x' → s = s' → InStep R Eq Eq
      ((writing tasks write result).round x s) ((writing tasks' write' result).round x' s') := by
    rintro x x' s _ hxx' rfl
    simp only [writing, hwrite x x' s hxx']
    obtain ⟨s', _ | f⟩ := write' x' s
    · exact .next (hnext x x' hxx') rfl
    · exact .stop (hnext x x' hxx') rfl
  obtain ⟨_, _, r₁, hends₁, -, -, hr⟩ :=
    hends.simulate hround (fun _ _ hs => congrArg _ hs) pending' s hpending rfl
  obtain ⟨-, -, hr₁⟩ := hends₁.unique hends'
  exact hr.trans hr₁

end Loop

variable {t : Tree} {kids : NodeId → List NodeId} {id : NodeId}

namespace Tree

theorem Linked.length_rose (h : Linked t kids) (id : NodeId) : (t.rose id).toList.length =
    ((t.children id).map fun c => (t.rose c).toList.length).sum + 1 := by
  rw [h.toList_rose, List.length_cons, List.length_flatMap]

/-- Twice the nodes at and below a node are two more than twice those at and below its children. -/
theorem Linked.twice_length_rose (h : Linked t kids) (id : NodeId) :
    ((t.children id).map fun c => 2 * (t.rose c).toList.length).sum + 2 =
      2 * (t.rose id).toList.length := by
  have htwice : ((t.children id).map fun c => 2 * (t.rose c).toList.length).sum =
      2 * ((t.children id).map fun c => (t.rose c).toList.length).sum :=
    List.sum_map_mul_left (t.children id) _ 2
  rw [htwice, h.length_rose id]
  omega

/-! ## Tasks for nodes -/

section Nodes

variable {own below : τ → List NodeId} {weight : τ → Nat} {kind brings : τ → Bool}

/-- The tasks for the children of a node, and others that stand for no node. -/
theorem Linked.sublist_nodes (h : Linked t kids) (node : NodeId → τ) (below : τ → List NodeId)
    (hbelow : ∀ c, below (node c) = (t.rose c).toList) {rest : List τ}
    (hrest : rest.flatMap below = []) (id : NodeId) :
    ([id] ++ ((t.children id).map node ++ rest).flatMap below).Sublist (t.rose id).toList := by
  have hnodes : ((t.children id).map node).flatMap below =
      (t.children id).flatMap fun c => (t.rose c).toList := by
    rw [List.flatMap_map]
    exact List.flatMap_congr fun c _ => hbelow c
  rw [List.flatMap_append, hnodes, hrest, List.append_nil]
  exact h.cons_sublist_rose (List.Sublist.refl _)

/-- If each task for a node weighs twice the nodes at and below it, those for its children leave
room for two more tasks. -/
theorem Linked.sum_nodes (h : Linked t kids) (node : NodeId → τ) (weight : τ → Nat)
    (hweight : ∀ c, weight (node c) = 2 * (t.rose c).toList.length) (id : NodeId) :
    (((t.children id).map node).map weight).sum + 2 = 2 * (t.rose id).toList.length := by
  have hnodes : ((t.children id).map node).map weight =
      (t.children id).map fun c => 2 * (t.rose c).toList.length := by
    rw [List.map_map]
    exact List.map_congr_left fun c _ => hweight c
  rw [hnodes, h.twice_length_rose]

theorem countP_nodes (node : NodeId → τ) (kind : τ → Bool) (hkind : ∀ c, kind (node c) = false)
    (ids : List NodeId) : (ids.map node).countP kind = 0 := by
  refine List.countP_eq_zero.mpr fun task htask => ?_
  obtain ⟨id, -, rfl⟩ := List.mem_map.mp htask
  rw [hkind]
  exact Bool.false_ne_true

/-- A writer that begins with the task for a node ends. It reads no node twice, and it takes or
leaves one task of a kind for each task that brings one with it. -/
theorem Linked.exists_writingEnds (h : Linked t kids) {tasks : τ → List τ}
    (write : τ → σ → σ × Option Fault) (result : σ → Option Fault → ρ)
    (hsublist : ∀ x, (own x ++ (tasks x).flatMap below).Sublist (below x))
    (hweight : ∀ x, ((tasks x).map weight).sum < weight x)
    (hcount : ∀ x, (tasks x).countP kind = if brings x then 1 else 0) (top : τ)
    (hbelow : below top = (t.rose id).toList) (hkind : kind top = false) (s : σ) :
    ∃ taken left r, (Loop.writing tasks write result).Ends [top] s taken left r ∧
      taken.length ≤ weight top ∧ t.MeetsOnce id (taken.flatMap own) ∧
      taken.countP kind + left.countP kind = taken.countP brings := by
  have hfits : (Loop.writing tasks write result).Fits weight := Loop.writing_fits hweight
  obtain ⟨taken, left, r, hends, hle⟩ := hfits.exists_ends [top] s
  rw [List.map_singleton, List.sum_singleton] at hle
  have hmet := hends.sublist (Loop.writing_sublist own hsublist)
  rw [List.flatMap_singleton, hbelow] at hmet
  have htotal := hends.countP_add (Loop.writing_countP hcount)
  rw [List.countP_singleton, hkind, if_neg Bool.false_ne_true, Nat.zero_add] at htotal
  exact ⟨taken, left, r, hends, Nat.le_of_add_right_le hle,
    h.meetsOnce ((List.sublist_append_left _ _).trans hmet), htotal⟩

end Nodes

/-! ## Plain text -/

/-- What a node adds to plain text. -/
def writePlain (t : Tree) (id : NodeId) (writes : Array String) : Array String × Option Fault :=
  match (plainPart (t.contentAt id)).1 with
  | some text => (writes.push text, none)
  | none => (writes, none)

/-- The nodes that are read for plain text in place of a node: its children, unless they are passed
over. -/
def plainTasks (t : Tree) (id : NodeId) : List NodeId :=
  if (plainPart (t.contentAt id)).2 then t.children id else []

/-- The loop of the writer of plain text. -/
def plainTextLoop (t : Tree) : Loop NodeId (Array String) (Array String) :=
  .writing t.plainTasks t.writePlain fun writes _ => writes

theorem plainTextLoop_carriedOut (h : Linked t kids) :
    t.plainTextLoop.CarriedOut t.plainTextOnto fun _ writes => writes where
  done n writes := by cases n <;> rfl
  step n id rest writes := by
    cases hc : t.content? id with
    | none =>
      have hcontent : t.contentAt id = .document := by rw [contentAt, hc, Option.getD_none]
      have hnone := h.children_eq_nil_of_le (content?_eq_none.mp hc)
      simp only [plainTextLoop, Loop.writing, writePlain, plainTasks, plainTextOnto, hc, hcontent,
        hnone, ite_self]
      rfl
    | some content =>
      have hcontent : t.contentAt id = content := contentAt_of_content? hc
      simp only [plainTextLoop, Loop.writing, writePlain, plainTasks, plainTextOnto, hc, hcontent,
        h.childrenOnto_eq, List.filter_true]
      obtain ⟨part, enter⟩ := plainPart content
      cases part <;> cases enter <;> rfl

/-- Plain text is what the loop of its writer ends with, and no node is read twice for it. -/
theorem exists_plainTextEnds (h : Linked t kids) (id : NodeId) :
    ∃ taken writes, t.plainTextLoop.Ends [id] #[] taken [] writes ∧
      t.plainText id = { writes } ∧ t.MeetsOnce id taken := by
  have hround : ∀ x, ([x] ++ (t.plainTasks x).flatMap fun c => (t.rose c).toList).Sublist
      (t.rose x).toList := by
    intro x
    refine h.cons_sublist_rose ?_
    rw [plainTasks]
    split
    · exact List.Sublist.refl _
    · exact List.nil_sublist _
  have hsublist : ∀ x s, ([x] ++ (t.plainTextLoop.round x s).tasks.flatMap
      fun c => (t.rose c).toList).Sublist (t.rose x).toList :=
    Loop.writing_sublist (fun x => [x]) hround
  have hfits := Loop.fits_of_sublist hsublist fun x => List.cons_ne_nil x []
  obtain ⟨taken, left, writes, hends, -⟩ := hfits.exists_ends [id] #[]
  have hleft : left = [] := by
    refine hends.left_eq_nil (P := fun _ => True) (fun x s tasks r hround => ?_) trivial
    obtain ⟨f, hf, -⟩ := Loop.writing_stop hround
    rw [writePlain] at hf
    split at hf <;> cases hf
  subst hleft
  have hmet := hends.sublist hsublist
  rw [List.flatMap_nil, List.append_nil, List.flatMap_singleton', List.flatMap_singleton] at hmet
  have honce := h.meetsOnce hmet
  have hrun := hends.run_eq (plainTextLoop_carriedOut h) honce.length_le
  refine ⟨taken, writes, hends, ?_, honce⟩
  rw [plainText, hrun]

end Tree

/-! ## Markup -/

namespace Markup

/-- Whether a task is an end tag. -/
def Task.isClose : Task → Bool
  | .node _ _ => false
  | .close _ => true

/-- The node that a task reads. -/
def Task.reads : Task → List NodeId
  | .node id _ => [id]
  | .close _ => []

/-- The nodes at and below a task. -/
def Task.below (t : Tree) : Task → List NodeId
  | .node id _ => (t.rose id).toList
  | .close _ => []

/-- How many tasks a task can come to. -/
def Task.weight (t : Tree) : Task → Nat
  | .node id _ => 2 * (t.rose id).toList.length
  | .close _ => 1

/-- Whether a task opens an element that gets an end tag. -/
def Task.opens (t : Tree) : Task → Bool
  | .node id _ =>
    match t.contentAt id with
    | .element e => !Tag.isVoid e.tag && e.tag != some .plaintext
    | _ => false
  | .close _ => false

/-- The tasks that take the place of a task. -/
def Task.next (t : Tree) : Task → List Task
  | .node id _ =>
    match t.contentAt id with
    | .document => (t.children id).map (.node · false)
    | .element e =>
      if Tag.isVoid e.tag then []
      else (t.children id).map (.node · (Tag.isLiteral e.tag)) ++
        if e.tag = some .plaintext then [] else [.close e.name]
    | _ => []
  | .close _ => []

/-- What is written for an element when it is met. -/
def writeElement (t : Tree) (id : NodeId) (e : Element) (writes : Array String) :
    Array String × Option Fault :=
  if Tag.isVoid e.tag then
    if (t.first? id).isSome then
      (writes ++ e.openWrites, some (.voidElementChildren e.name))
    else ((writes ++ e.openWrites).push "/>", none)
  else if dropsFirstNewline e.tag && startsWithNewline t id then
    (((writes ++ e.openWrites).push ">").push "\n", none)
  else ((writes ++ e.openWrites).push ">", none)

/-- What is written for a task. -/
def Task.write (t : Tree) : Task → Array String → Array String × Option Fault
  | .close name, writes => (writes ++ endTagWrites name, none)
  | .node id literal, writes =>
    match t.contentAt id with
    | .document => (writes, none)
    | .element e => writeElement t id e writes
    | .text data => (writes.push (if literal then data else Reference.escape data), none)
    | .comment data => (writes ++ commentWrites data, none)
    | .doctype d => (writes ++ d.writes, none)
    | .raw data => (writes.push data, none)
    | .error => (writes, some .errorNode)

/-- The loop of the writer of markup. -/
def loop (t : Tree) : Loop Task (Array String) Output :=
  .writing (Task.next t) (Task.write t) fun writes fault => { writes, fault }

theorem carriedOut (h : t.Linked kids) : (loop t).CarriedOut (run t) fun _ out => out where
  done n writes := by cases n <;> rfl
  step n task rest writes := by
    cases task with
    | close name => rfl
    | node id literal =>
      simp only [loop, Loop.writing, Task.write, Task.next, Tree.contentAt, run]
      cases hc : t.content? id with
      | none =>
        have hnone := h.children_eq_nil_of_le (Tree.content?_eq_none.mp hc)
        simp only [Option.getD_none, hnone]
        rfl
      | some content =>
        simp only [Option.getD_some]
        cases content with
        | document =>
          simp only [tasksBelow_eq h]
        | element e =>
          simp only [writeElement, tasksBelow_eq h]
          by_cases hv : Tag.isVoid e.tag
          · simp only [hv, if_true]
            by_cases hf : (t.first? id).isSome
            · simp only [hf, if_true]
            · simp only [hf, if_false, Bool.false_eq_true]
              rfl
          · simp only [hv, if_false, Bool.false_eq_true]
            cases dropsFirstNewline e.tag && startsWithNewline t id <;> rfl
        | _ => rfl

theorem sublist_next (h : t.Linked kids) (task : Task) :
    (task.reads ++ (task.next t).flatMap (Task.below t)).Sublist (task.below t) := by
  cases task with
  | close name => exact List.Sublist.refl _
  | node id literal =>
    have hnone : ([id] ++ [].flatMap (Task.below t)).Sublist (t.rose id).toList :=
      h.cons_sublist_rose (List.nil_sublist _)
    rw [Task.reads, Task.below, Task.next]
    split
    · rw [← List.append_nil ((t.children id).map _)]
      exact h.sublist_nodes (Task.node · false) (Task.below t) (fun _ => rfl) rfl id
    · split
      · exact hnone
      · next e _ _ =>
        refine h.sublist_nodes (Task.node · (Tag.isLiteral e.tag)) (Task.below t)
          (fun _ => rfl) ?_ id
        split <;> rfl
    · exact hnone

theorem weight_next (h : t.Linked kids) (task : Task) :
    ((task.next t).map (Task.weight t)).sum < task.weight t := by
  cases task with
  | close name => exact Nat.zero_lt_one
  | node id literal =>
    have hlength := h.length_rose_pos id
    rw [Task.weight, Task.next]
    split
    · have hbelow := h.sum_nodes (Task.node · false) (Task.weight t) (fun _ => rfl) id
      omega
    · next e _ =>
      have hbelow := h.sum_nodes (Task.node · (Tag.isLiteral e.tag)) (Task.weight t)
        (fun _ => rfl) id
      split
      · rw [List.map_nil, List.sum_nil]
        omega
      · rw [List.map_append, List.sum_append]
        split
        · rw [List.map_nil, List.sum_nil]
          omega
        · rw [List.map_singleton, List.sum_singleton, Task.weight]
          omega
    · rw [List.map_nil, List.sum_nil]
      omega

theorem countP_next (t : Tree) (task : Task) :
    (task.next t).countP Task.isClose = if task.opens t then 1 else 0 := by
  cases task with
  | close name => rfl
  | node id literal =>
    rw [Task.next, Task.opens]
    cases t.contentAt id with
    | document => exact Tree.countP_nodes (Task.node · false) Task.isClose (fun _ => rfl) _
    | element e =>
      by_cases hv : Tag.isVoid e.tag
      · simp only [hv, if_true]
        rfl
      · have hnodes := Tree.countP_nodes (Task.node · (Tag.isLiteral e.tag)) Task.isClose
          (fun _ => rfl) (t.children id)
        simp only [hv, if_false, Bool.false_eq_true, List.countP_append, hnodes]
        by_cases hp : e.tag = some .plaintext
        · simp only [hp, if_true]
          rfl
        · simp only [hp, if_false, bne, beq_eq_false_iff_ne.mpr hp]
          rfl
    | _ => rfl

/-- Markup is what the loop of its writer ends with. It reads no node twice, and takes one end tag
for each element that it opens, except those that it leaves when a fault stops it. -/
theorem exists_ends (h : t.Linked kids) (id : NodeId) :
    ∃ taken left, (loop t).Ends [.node id false] #[] taken left (t.markup id) ∧
      t.MeetsOnce id (taken.flatMap Task.reads) ∧
      taken.countP Task.isClose + left.countP Task.isClose = taken.countP (Task.opens t) ∧
      ((t.markup id).fault = none → left = []) := by
  obtain ⟨taken, left, out, hends, hle, honce, hcount⟩ :=
    h.exists_writingEnds (Task.write t) (fun writes fault => ({ writes, fault } : Output))
      (sublist_next h) (weight_next h) (countP_next t) (.node id false) rfl rfl #[]
  have hrose := h.length_rose_le id
  have hrun : t.markup id = out := hends.run_eq (carriedOut h) (by rw [Task.weight] at hle; omega)
  subst hrun
  refine ⟨taken, left, hends, honce, hcount, fun hf => ?_⟩
  refine hends.left_eq_nil (P := fun out => out.fault = none) (fun x s tasks r hround => ?_) hf
  obtain ⟨f, -, rfl⟩ := Loop.writing_stop hround
  exact Option.some_ne_none f

end Markup

/-! ## Layouts -/

namespace Layout

variable {o : LayoutOptions}

/-- Whether a task is an end tag. -/
def Task.isClose : Task → Bool
  | .node _ _ => false
  | .close _ _ _ => true

/-- Whether the children of an element are written at once, without tasks of their own. -/
def inlines (e : Element) : Bool :=
  !Tag.isVoid e.tag && Tag.isLiteral e.tag

/-- The nodes that are read for a task: all nodes at and below an element with literal content, as
the text below it is written at once and all else by loops of the writer of markup, one for each
child. -/
def Task.reads (t : Tree) : Task → List NodeId
  | .node id _ =>
    match t.contentAt id with
    | .element e => if inlines e then (t.rose id).toList else [id]
    | _ => [id]
  | .close _ _ _ => []

/-- The nodes at and below a task. -/
def Task.below (t : Tree) : Task → List NodeId
  | .node id _ => (t.rose id).toList
  | .close _ _ _ => []

/-- How many tasks a task can come to. -/
def Task.weight (t : Tree) : Task → Nat
  | .node id _ => 2 * (t.rose id).toList.length
  | .close _ _ _ => 1

/-- Whether a task opens an element that is closed by a task of its own. -/
def Task.opens (t : Tree) : Task → Bool
  | .node id _ =>
    match t.contentAt id with
    | .element e => !Tag.isVoid e.tag && !Tag.isLiteral e.tag
    | _ => false
  | .close _ _ _ => false

/-- The tasks that take the place of a task. -/
def Task.next (t : Tree) : Task → List Task
  | .node id level =>
    match t.contentAt id with
    | .document => (t.children id).map (.node · level)
    | .element e =>
      if Tag.isVoid e.tag || Tag.isLiteral e.tag then []
      else (t.children id).map (.node · (level + 1)) ++ [.close e.name level (Tag.isBlock e.tag)]
    | _ => []
  | .close _ _ _ => []

/-- What is written for an element when it is met: its start tag, and if its content is literal also
its content and its end tag. -/
def writeElement (t : Tree) (o : LayoutOptions) (id : NodeId) (level : UInt64) (e : Element)
    (p : Page) : Page × Option Fault :=
  if inlines e then
    match literalChildren t (t.children id) (openTag o e level p) with
    | (p, none) => (closeTag o e.name level (Tag.isBlock e.tag) p, none)
    | (p, some f) => (p, some f)
  else (openTag o e level p, none)

/-- What is written for a task. -/
def Task.write (t : Tree) (o : LayoutOptions) : Task → Page → Page × Option Fault
  | .close name level block, p => (closeTag o name level block p, none)
  | .node id level, p =>
    match t.contentAt id with
    | .document => (p, none)
    | .element e => writeElement t o id level e p
    | .text data => ((p.indentAtLineStart o level).write (Reference.escape data), none)
    | .comment data => ((p.indentAtLineStart o level).writeAll (commentWrites data), none)
    | .doctype d => ((p.writeAll d.writes).endLine, none)
    | .raw data => (p.write data, none)
    | .error => (p, some .errorNode)

/-- The loop of the writer of layouts. -/
def loop (t : Tree) (o : LayoutOptions) : Loop Task Page (Page × Option Fault) :=
  .writing (Task.next t) (Task.write t o) Prod.mk

theorem carriedOut (h : t.Linked kids) (o : LayoutOptions) :
    (loop t o).CarriedOut (run t o) fun _ r => r where
  done n p := run_nil t o n p
  step n task rest p := by
    cases task with
    | close name level block => rfl
    | node id level =>
      simp only [loop, Loop.writing, Task.write, Task.next, Tree.contentAt, run]
      cases hc : t.content? id with
      | none =>
        have hnone := h.children_eq_nil_of_le (Tree.content?_eq_none.mp hc)
        simp only [Option.getD_none, hnone]
        rfl
      | some content =>
        simp only [Option.getD_some]
        cases content with
        | document => simp only [tasksBelow_eq h]
        | element e =>
          simp only [writeElement, inlines, tasksBelow_eq h]
          by_cases hv : Tag.isVoid e.tag
          · simp only [hv, if_true, Bool.not_true, Bool.false_and, Bool.false_eq_true, if_false,
              Bool.true_or, List.nil_append]
          by_cases hl : Tag.isLiteral e.tag
          · simp only [hv, hl, if_true, if_false, Bool.false_eq_true, Bool.not_false,
              Bool.and_true, Bool.or_true]
            obtain ⟨p', _ | f⟩ := literalChildren t (t.children id) (openTag o e level p) <;> rfl
          · simp only [hv, hl, if_false, Bool.false_eq_true, Bool.and_false, Bool.or_false,
              List.append_assoc, List.singleton_append]
        | _ => rfl

theorem sublist_next (h : t.Linked kids) (task : Task) :
    (task.reads t ++ (task.next t).flatMap (Task.below t)).Sublist (task.below t) := by
  cases task with
  | close name level block => exact List.Sublist.refl _
  | node id level =>
    have hnone : ([id] ++ [].flatMap (Task.below t)).Sublist (t.rose id).toList :=
      h.cons_sublist_rose (List.nil_sublist _)
    rw [Task.reads, Task.below, Task.next]
    cases t.contentAt id with
    | document =>
      have hbelow := h.sublist_nodes (Task.node · level) (Task.below t) (fun _ => rfl)
        List.flatMap_nil id
      rw [List.append_nil] at hbelow
      exact hbelow
    | element e =>
      by_cases hv : Tag.isVoid e.tag
      · simp only [inlines, hv, Bool.not_true, Bool.false_and, Bool.false_eq_true, if_false,
          Bool.true_or, if_true]
        exact hnone
      by_cases hl : Tag.isLiteral e.tag
      · simp only [inlines, hv, hl, Bool.not_false, Bool.and_true, if_true, Bool.or_true,
          List.flatMap_nil, List.append_nil]
        exact List.Sublist.refl _
      · simp only [inlines, hv, hl, Bool.and_false, Bool.or_false, Bool.false_eq_true, if_false]
        exact h.sublist_nodes (Task.node · (level + 1)) (Task.below t) (fun _ => rfl) rfl id
    | _ => exact hnone

theorem weight_next (h : t.Linked kids) (task : Task) :
    ((task.next t).map (Task.weight t)).sum < task.weight t := by
  cases task with
  | close name level block => exact Nat.zero_lt_one
  | node id level =>
    have hlength := h.length_rose_pos id
    have hsame := h.sum_nodes (Task.node · level) (Task.weight t) (fun _ => rfl) id
    have hdeeper := h.sum_nodes (Task.node · (level + 1)) (Task.weight t) (fun _ => rfl) id
    rw [Task.weight, Task.next]
    split
    · omega
    · split
      · rw [List.map_nil, List.sum_nil]
        omega
      · rw [List.map_append, List.sum_append, List.map_singleton, List.sum_singleton,
          Task.weight]
        omega
    · rw [List.map_nil, List.sum_nil]
      omega

theorem countP_next (t : Tree) (task : Task) :
    (task.next t).countP Task.isClose = if task.opens t then 1 else 0 := by
  cases task with
  | close name level block => rfl
  | node id level =>
    rw [Task.next, Task.opens]
    cases t.contentAt id with
    | document => exact Tree.countP_nodes (Task.node · level) Task.isClose (fun _ => rfl) _
    | element e =>
      by_cases hv : Tag.isVoid e.tag
      · simp only [hv, Bool.true_or, if_true]
        rfl
      by_cases hl : Tag.isLiteral e.tag
      · simp only [hl, Bool.or_true, if_true, Bool.not_true, Bool.and_false]
        rfl
      · have hnodes := Tree.countP_nodes (Task.node · (level + 1)) Task.isClose
          (fun _ => rfl) (t.children id)
        simp only [hv, hl, Bool.or_false, Bool.false_eq_true, if_false, List.countP_append, hnodes]
        rfl
    | _ => rfl

/-- A layout is what the loop of its writer ends with, up to the last end of line. For no two tasks
the same node is read, and there is one end tag for each element that is opened and whose content
is not literal, except those that are left when a fault stops the writer. -/
theorem exists_ends (h : t.Linked kids) (o : LayoutOptions) (id : NodeId) :
    ∃ taken left p fault, (loop t o).Ends [.node id o.level] {} taken left (p, fault) ∧
      t.layout o id =
        (if fault = none ∧ o.trailingNewline then p.endLine else p).output fault ∧
      t.MeetsOnce id (taken.flatMap (Task.reads t)) ∧
      taken.countP Task.isClose + left.countP Task.isClose = taken.countP (Task.opens t) ∧
      (fault = none → left = []) := by
  obtain ⟨taken, left, ⟨p, fault⟩, hends, hle, honce, hcount⟩ :=
    h.exists_writingEnds (Task.write t o) Prod.mk (sublist_next h) (weight_next h)
      (countP_next t) (.node id o.level) rfl rfl {}
  have hrose := h.length_rose_le id
  have hrun : run t o (2 * t.size) [.node id o.level] {} = (p, fault) :=
    hends.run_eq (carriedOut h o) (by rw [Task.weight] at hle; omega)
  refine ⟨taken, left, p, fault, hends, ?_, honce, hcount, fun hf => ?_⟩
  · rw [Tree.layout, hrun]
    cases fault with
    | none => simp only [true_and]
    | some f => simp only [reduceCtorEq, false_and, if_false]
  · refine hends.left_eq_nil (P := fun r => r.2 = none) (fun x s tasks r hround => ?_) hf
    obtain ⟨f, -, rfl⟩ := Loop.writing_stop hround
    exact Option.some_ne_none f

end Layout

end Hypertext
