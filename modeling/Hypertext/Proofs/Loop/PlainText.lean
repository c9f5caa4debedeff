import Hypertext.Proofs.Loop.Writing
import Hypertext.Proofs.Tree.Grown

/-!
# The nodes of plain text

The writer of plain text walks down from a node and stops at the nodes whose content it passes
over: at `br`, scripts and style sheets. The nodes that it meets (`Tree.plainNodes`) each add a
write or nothing, in order (`Linked.writes_plainText`).

A text is no such stop, so the writer goes below texts. When a tree grows, plain text keeps its
writes in order and may get further ones in between; it is the same text as before just when the
nodes that the writer meets in addition have nothing to say (`Grows.plainText_eq_iff`).
-/

namespace Hypertext

/-- Of a list without repetitions, a part that is read the same as the whole leaves out only what
is read as nothing. -/
theorem flatMap_eq_iff_of_sublist {α β : Type} {f : α → List β} {xs ys : List α}
    (h : xs.Sublist ys) (hnodup : ys.Nodup) :
    ys.flatMap f = xs.flatMap f ↔ ∀ y ∈ ys, y ∉ xs → f y = [] := by
  induction h with
  | slnil => simp
  | @cons xs ys y h ih =>
    obtain ⟨hy, hnodup⟩ := List.nodup_cons.mp hnodup
    have hle := (h.flatMap f).length_le
    have hnot : y ∉ xs := fun hmem => hy (h.subset hmem)
    rw [List.forall_mem_cons, ← ih hnodup, List.flatMap_cons]
    constructor
    · intro heq
      have hlength := congrArg List.length heq
      rw [List.length_append] at hlength
      have hnil : f y = [] := List.length_eq_zero_iff.mp (by omega)
      rw [hnil, List.nil_append] at heq
      exact ⟨fun _ => hnil, heq⟩
    · rintro ⟨hnil, heq⟩
      rw [hnil hnot, List.nil_append, heq]
  | @cons_cons xs ys x h ih =>
    obtain ⟨hx, hnodup⟩ := List.nodup_cons.mp hnodup
    rw [List.flatMap_cons, List.flatMap_cons, List.append_cancel_left_eq, ih hnodup,
      List.forall_mem_cons]
    refine ⟨fun hall => ⟨fun hnot => absurd List.mem_cons_self hnot, fun y hy hnot => ?_⟩,
      fun hall y hy hnot => hall.2 y hy fun hmem => ?_⟩
    · exact hall y hy fun hmem => hnot (List.mem_cons_of_mem x hmem)
    · rcases List.mem_cons.mp hmem with rfl | hmem
      · exact hx hy
      · exact hnot hmem

namespace Tree

variable {t u : Tree} {kids kids' : NodeId → List NodeId} {id x : NodeId}

/-- Whether the writer of plain text passes over what stands below a node. -/
def endsPlain (t : Tree) (id : NodeId) : Bool :=
  !(plainPart (t.contentAt id)).2

/-- The nodes that are read for the plain text of `id`, in order. -/
def plainNodes (t : Tree) (id : NodeId) : List NodeId :=
  (t.rose id).reached t.endsPlain

/-- What a node adds to plain text, if it adds anything. -/
def plainWrite? (t : Tree) (id : NodeId) : Option String :=
  (plainPart (t.contentAt id)).1

theorem writePlain_eq (t : Tree) (id : NodeId) (writes : Array String) :
    t.writePlain id writes = (writes ++ (t.plainWrite? id).toList, none) := by
  rw [writePlain, plainWrite?]
  cases (plainPart (t.contentAt id)).1 with
  | none => simp
  | some text => rfl

/-- The loop of the writer takes the nodes that its walks from the pending nodes on meet, and adds
their writes in order. By induction on its rounds. -/
theorem plainTextLoop_ends (h : Linked t kids) {pending taken left : List NodeId}
    {writes result : Array String} (hends : t.plainTextLoop.Ends pending writes taken left result) :
    taken = pending.flatMap t.plainNodes ∧
      result = writes ++ taken.flatMap fun x => (t.plainWrite? x).toList := by
  induction hends with
  | done writes => exact ⟨rfl, by simp [plainTextLoop, Loop.writing]⟩
  | stop rest hround =>
    simp only [plainTextLoop, Loop.writing, writePlain_eq] at hround
    cases hround
  | @next x writes writes' tasks rest taken left result hround hrest ih =>
    simp only [plainTextLoop, Loop.writing, writePlain_eq] at hround
    cases hround
    obtain ⟨htaken, hresult⟩ := ih
    have hnodes : t.plainNodes x = x :: (t.plainTasks x).flatMap t.plainNodes := by
      rw [plainNodes, h.reached_rose, plainTasks, endsPlain]
      cases (plainPart (t.contentAt x)).2 <;> rfl
    constructor
    · rw [List.flatMap_cons, hnodes, htaken, List.flatMap_append, List.cons_append]
    · rw [hresult, List.flatMap_cons, append_writes]

/-- The writes of plain text are those of the nodes that are read for it, in order. -/
theorem Linked.writes_plainText (h : Linked t kids) (id : NodeId) :
    (t.plainText id).writes.toList =
      (t.plainNodes id).flatMap fun x => (t.plainWrite? x).toList := by
  obtain ⟨taken, writes, hends, htext, -⟩ := exists_plainTextEnds h id
  obtain ⟨htaken, hwrites⟩ := plainTextLoop_ends h hends
  rw [List.flatMap_singleton] at htaken
  rw [htext, hwrites, htaken]
  simp

/-- Plain text is what the nodes that are read for it say, in order. -/
theorem Linked.text_plainText (h : Linked t kids) (id : NodeId) :
    (t.plainText id).text.toList =
      (t.plainNodes id).flatMap fun x => ((t.plainWrite? x).getD "").toList := by
  rw [Output.toList_text, h.writes_plainText, joined, List.flatMap_assoc]
  refine List.flatMap_congr fun x _ => ?_
  cases t.plainWrite? x with
  | none => rfl
  | some text => rw [Option.toList_some, List.flatMap_singleton, Option.getD_some]

/-! ## Growing -/

namespace Grows

theorem endsPlain_eq (g : Grows t u) (hx : x < t.size) : u.endsPlain x = t.endsPlain x := by
  rw [endsPlain, endsPlain, g.contentAt_eq hx]

theorem plainWrite?_eq (g : Grows t u) (hx : x < t.size) :
    u.plainWrite? x = t.plainWrite? x := by
  rw [plainWrite?, plainWrite?, g.contentAt_eq hx]

/-- The writer of plain text meets the nodes that it met before, in order. -/
theorem plainNodes_sublist (g : Grows t u) (h : Linked t kids) (h' : Linked u kids')
    (hid : id < t.size) : (t.plainNodes id).Sublist (u.plainNodes id) :=
  g.reached_sublist h h' (fun _ => g.endsPlain_eq) hid

theorem lt_of_mem_plainNodes (h : Linked t kids) (hid : id < t.size)
    (hx : x ∈ t.plainNodes id) : x < t.size :=
  h.lt_of_mem_rose hid ((Rose.reached_sublist _ _).subset hx)

/-- Plain text keeps its writes in order, and may get further ones. -/
theorem writes_plainText_sublist (g : Grows t u) (h : Linked t kids) (h' : Linked u kids')
    (hid : id < t.size) :
    (t.plainText id).writes.toList.Sublist (u.plainText id).writes.toList := by
  rw [h.writes_plainText, h'.writes_plainText]
  refine List.Sublist.trans (List.Sublist.flatMap_right _ fun x hx => ?_)
    ((g.plainNodes_sublist h h' hid).flatMap _)
  rw [g.plainWrite?_eq (lt_of_mem_plainNodes h hid hx)]

/-- Plain text says the same as before just when what is read in addition says nothing. -/
theorem plainText_eq_iff (g : Grows t u) (h : Linked t kids) (h' : Linked u kids')
    (hid : id < t.size) : (u.plainText id).text = (t.plainText id).text ↔
      ∀ x ∈ u.plainNodes id, x ∉ t.plainNodes id → (u.plainWrite? x).getD "" = "" := by
  have hold : ((t.plainNodes id).flatMap fun x => ((t.plainWrite? x).getD "").toList) =
      (t.plainNodes id).flatMap fun x => ((u.plainWrite? x).getD "").toList :=
    List.flatMap_congr fun x hx => by rw [g.plainWrite?_eq (lt_of_mem_plainNodes h hid hx)]
  have hnodup : (u.plainNodes id).Nodup := (h'.lists_reached _ id).nodup
  rw [← String.toList_inj, h.text_plainText, h'.text_plainText, hold,
    flatMap_eq_iff_of_sublist (g.plainNodes_sublist h h' hid) hnodup]
  simp only [String.toList_eq_nil_iff]

end Grows

end Tree

end Hypertext
