import Hypertext.Output.Buffer
import Hypertext.Proofs.Loop.Alike
import Hypertext.Proofs.Prune.Answers

/-!
# Trees of the same shape

How a tree was built cannot be told from what is read at and below a node. Nodes of two trees have
the same shape if the same contents stand at and below them in the same order; the numbers of the
nodes may differ, and so may all that stands elsewhere in the trees.

From nodes of the same shape on, all loops go in step. The writers write the same, one write after
another, and walks and searches meet nodes that have the same place below the two nodes
(`Tree.SamePlace`), as long as a test asks for the contents of nodes only. All this is said by
`Tree.SameAnswers`.

* `Linked.sameAnswers`: nodes of the same shape give the same answers.
* `Tree.answers_eq_of_shape_eq`: so do a node and the copy that pruning makes if nothing is
  dropped.
-/

namespace Hypertext

/-- A test that asks for the content of a node only. -/
def Test.onContent {σ : Type} (t : Tree) (p : Content → σ → Bool × σ) : Test σ :=
  fun id s => p (t.contentAt id) s

namespace Tree

variable {t u : Tree} {kids kids' : NodeId → List NodeId} {id id' x x' : NodeId}

/-! ## Places -/

/-- The node that is reached from `id` on the way down to the children with these places. -/
def nodeAt (t : Tree) : NodeId → List Nat → Option NodeId
  | id, [] => some id
  | id, i :: path => (t.children id)[i]?.bind fun c => t.nodeAt c path

theorem nodeAt_concat (t : Tree) (i : Nat) : ∀ (path : List Nat) (id : NodeId),
    t.nodeAt id (path ++ [i]) = (t.nodeAt id path).bind fun x => (t.children x)[i]?
  | [], id => by
    rw [List.nil_append, nodeAt, nodeAt, Option.bind_some]
    exact Option.bind_fun_some _
  | j :: path, id => by
    rw [List.cons_append, nodeAt, nodeAt, Option.bind_assoc]
    exact congrArg _ (funext fun c => nodeAt_concat t i path c)

/-- The node `x` has the place below `id` that `x'` has below `id'`. -/
def SamePlace (t : Tree) (id : NodeId) (u : Tree) (id' x x' : NodeId) : Prop :=
  ∃ path, t.nodeAt id path = some x ∧ u.nodeAt id' path = some x'

/-- The nodes `x` and `x'` have the same place, and the same stands at and below them. -/
structure Corresponds (t : Tree) (id : NodeId) (u : Tree) (id' x x' : NodeId) : Prop where
  place : SamePlace t id u id' x x'
  shape : t.shape x = u.shape x'

/-- Nodes of the same shape hold the same, and so do their children in order. -/
theorem Linked.shape_congr_iff (h : Linked t kids) (h' : Linked u kids') :
    t.shape x = u.shape x' ↔ t.contentAt x = u.contentAt x' ∧
      List.Forall₂ (fun c c' => t.shape c = u.shape c') (t.children x) (u.children x') := by
  rw [h.shape_eq, h'.shape_eq, Rose.node.injEq, ← List.forall₂_eq_eq_eq,
    List.forall₂_map_left_iff, List.forall₂_map_right_iff]

/-- Children correspond if their parents do. -/
theorem Corresponds.children (hx : Corresponds t id u id' x x') (h : Linked t kids)
    (h' : Linked u kids') :
    List.Forall₂ (Corresponds t id u id') (t.children x) (u.children x') := by
  obtain ⟨path, hpath, hpath'⟩ := hx.place
  obtain ⟨-, hshapes⟩ := (h.shape_congr_iff h').mp hx.shape
  obtain ⟨hlength, hget⟩ := List.forall₂_iff_get.mp hshapes
  refine List.forall₂_iff_get.mpr ⟨hlength, fun i hi hi' => ⟨⟨path ++ [i], ?_, ?_⟩, hget i hi hi'⟩⟩
  · rw [nodeAt_concat, hpath, Option.bind_some, List.getElem?_eq_getElem hi]
    rfl
  · rw [nodeAt_concat, hpath', Option.bind_some, List.getElem?_eq_getElem hi']
    rfl

theorem Corresponds.contentAt (hx : Corresponds t id u id' x x') (h : Linked t kids)
    (h' : Linked u kids') : t.contentAt x = u.contentAt x' :=
  ((h.shape_congr_iff h').mp hx.shape).1

theorem Corresponds.refl (hshape : t.shape id = u.shape id') : Corresponds t id u id' id id' :=
  ⟨⟨[], rfl, rfl⟩, hshape⟩

/-- Nodes of the same shape are read alike, with the nodes that have the same places below them. -/
theorem Linked.readAlike (h : Linked t kids) (h' : Linked u kids') (id id' : NodeId) :
    ReadAlike t u (Corresponds t id u id') where
  contentAt hx := hx.contentAt h h'
  children hx _ := hx.children h h'

end Tree

/-! ## Walks and searches -/

variable {t u : Tree} {kids kids' : NodeId → List NodeId} {id id' : NodeId}

open Hypertext.Tree (Corresponds SamePlace)

/-- Walks from nodes of the same shape on hand out nodes with the same places. -/
theorem Walk.take_samePlace (h : t.Linked kids) (h' : u.Linked kids')
    (hshape : t.shape id = u.shape id') (n : Nat) :
    List.Forall₂ (SamePlace t id u id') (Walk.take t n (Walk.start id)).1
      (Walk.take u n (Walk.start id')).1 := by
  obtain ⟨hfound, -⟩ := Walk.take_forall₂ h h' (h.readAlike h' id id') (.refl hshape) n
  exact hfound.imp fun _ _ hx => hx.place

/-- Searches from nodes of the same shape on, with tests that correspond: they hand out nodes with
the same places, and come to corresponding states. -/
theorem Search.take_samePlace {σ σ' : Type} {S : σ → σ' → Prop} {p : Test σ} {q : Test σ'}
    (h : t.Linked kids) (h' : u.Linked kids') (hshape : t.shape id = u.shape id')
    (hp : ∀ x x' s s', Corresponds t id u id' x x' → S s s' →
      (p x s).1 = (q x' s').1 ∧ S (p x s).2 (q x' s').2)
    {s : σ} {s' : σ'} (hs : S s s') (n : Nat) :
    List.Forall₂ (SamePlace t id u id') (Search.take t p n (Search.start id) s).1
        (Search.take u q n (Search.start id') s').1 ∧
      S (Search.take t p n (Search.start id) s).2.2
        (Search.take u q n (Search.start id') s').2.2 := by
  have hahead : (ahead t (start id)).Sublist (t.rose id).toList := by rw [ahead_start]
  have hahead' : (ahead u (start id')).Sublist (u.rose id').toList := by rw [ahead_start]
  obtain ⟨hfound, -, hstate⟩ := Search.take_forall₂ h h' (h.readAlike h' id id')
    (.cons (.refl hshape) .nil) hahead hahead' hp hs n
  exact ⟨hfound.imp fun _ _ hx => hx.place, hstate⟩

/-! ## Writers -/

theorem Tree.plainText_congr (h : t.Linked kids) (h' : u.Linked kids')
    (hshape : t.shape id = u.shape id') : t.plainText id = u.plainText id' := by
  have hnext : ∀ x x', t.shape x = u.shape x' →
      List.Forall₂ (fun c c' => t.shape c = u.shape c') (t.plainTasks x) (u.plainTasks x') := by
    intro x x' hx
    obtain ⟨hcontent, hchildren⟩ := (h.shape_congr_iff h').mp hx
    rw [plainTasks, plainTasks, hcontent]
    split
    · exact hchildren
    · exact .nil
  have hwrite : ∀ x x' writes, t.shape x = u.shape x' →
      t.writePlain x writes = u.writePlain x' writes := by
    intro x x' writes hx
    rw [writePlain, writePlain, ((h.shape_congr_iff h').mp hx).1]
  obtain ⟨taken, writes, hends, htext, -⟩ := exists_plainTextEnds h id
  obtain ⟨taken', writes', hends', htext', -⟩ := exists_plainTextEnds h' id'
  have hwrites : writes = writes' :=
    Loop.writing_ends_eq hnext hwrite (.cons hshape .nil) hends hends'
  rw [htext, htext', hwrites]

/-! ## All answers -/

namespace Tree

/-- What is read at and below `id` in the tree `t` cannot be told from what is read at and below
`id'` in `u`. -/
structure SameAnswers (t : Tree) (id : NodeId) (u : Tree) (id' : NodeId) : Prop where
  plainText : t.plainText id = u.plainText id'
  markup : t.markup id = u.markup id'
  layout : ∀ o, t.layout o id = u.layout o id'
  /-- The writers bring the same to any sink, and report the same. -/
  sinks : ∀ s, (t.plainText id).into s = (u.plainText id').into s ∧
    (t.markup id).into s = (u.markup id').into s ∧
    ∀ o, (t.layout o id).buffered s = (u.layout o id').buffered s
  walk : ∀ n, List.Forall₂ (SamePlace t id u id') (Walk.take t n (Walk.start id)).1
    (Walk.take u n (Walk.start id')).1
  search : ∀ {σ : Type} (p : Content → σ → Bool × σ) (s : σ) (n : Nat),
    List.Forall₂ (SamePlace t id u id')
        (Search.take t (Test.onContent t p) n (Search.start id) s).1
        (Search.take u (Test.onContent u p) n (Search.start id') s).1 ∧
      (Search.take t (Test.onContent t p) n (Search.start id) s).2.2 =
        (Search.take u (Test.onContent u p) n (Search.start id') s).2.2
  /-- A search puts its test to nodes with the same places, and gets the same answers. -/
  calls : ∀ {σ : Type} (p : Content → σ → Bool × σ) (s : σ) (n : Nat),
    List.Forall₂ (fun call call' => SamePlace t id u id' call.1 call'.1 ∧ call.2 = call'.2)
      (Search.take t (Test.recorded (Test.onContent t p)) n (Search.start id) (s, [])).2.2.2
      (Search.take u (Test.recorded (Test.onContent u p)) n (Search.start id') (s, [])).2.2.2

theorem Linked.sameAnswers (h : Linked t kids) (h' : Linked u kids')
    (hshape : t.shape id = u.shape id') : SameAnswers t id u id' where
  plainText := plainText_congr h h' hshape
  markup := (h.readAlike h' id id').markup_eq h h' (.refl hshape)
  layout := (h.readAlike h' id id').layout_eq h h' (.refl hshape)
  sinks s := by
    have halike := h.readAlike h' id id'
    refine ⟨?_, ?_, fun o => ?_⟩
    · rw [plainText_congr h h' hshape]
    · rw [halike.markup_eq h h' (.refl hshape)]
    · rw [halike.layout_eq h h' (.refl hshape)]
  walk := Walk.take_samePlace h h' hshape
  search p s n := by
    refine Search.take_samePlace (S := Eq) h h' hshape (fun x x' s s' hx hs => ?_) rfl n
    have hanswer : Test.onContent t p x s = Test.onContent u p x' s' := by
      rw [Test.onContent, Test.onContent, hx.contentAt h h', hs]
    exact Prod.ext_iff.mp hanswer
  calls p s n := by
    -- The states correspond if they are the same and so are the records, place by place.
    have hstates := Search.take_samePlace (p := Test.recorded (Test.onContent t p))
      (q := Test.recorded (Test.onContent u p))
      (S := fun s s' => s.1 = s'.1 ∧ List.Forall₂
        (fun call call' => SamePlace t id u id' call.1 call'.1 ∧ call.2 = call'.2) s.2 s'.2)
      h h' hshape (fun x x' s s' hx hs => ?_) (s := (s, [])) ⟨rfl, .nil⟩ n
    · exact hstates.2.2
    · obtain ⟨s, calls⟩ := s
      obtain ⟨s', calls'⟩ := s'
      obtain ⟨rfl, hcalls⟩ := hs
      simp only [Test.recorded, Test.onContent, hx.contentAt h h', true_and]
      exact List.rel_append hcalls (.cons ⟨hx.place, rfl⟩ .nil)

end Tree

/-! ## Copies -/

namespace Rose

variable {α σ : Type} {drop : α → σ → Bool × σ}

theorem pruneAll_eq_self : ∀ (rs : List (Rose α)) (s : σ),
    (∀ r ∈ rs, ∀ s, (r.prune drop s).1 = some r) → (pruneAll drop rs s).1 = rs
  | [], _, _ => rfl
  | r :: rest, s, h => by
    have hfirst := h r List.mem_cons_self s
    have hrest := pruneAll_eq_self rest (r.prune drop s).2 fun x hx =>
      h x (List.mem_cons_of_mem r hx)
    simp only [pruneAll, hfirst, hrest]
    rfl

/-- If nothing is dropped, the whole tree is left. -/
theorem prune_eq_self (hdrop : ∀ value s, (drop value s).1 = false) (r : Rose α) (s : σ) :
    (r.prune drop s).1 = some r := by
  induction r generalizing s with
  | node value below ih =>
    have hd : drop value s = (false, (drop value s).2) := Prod.ext (hdrop value s) rfl
    rw [prune_of_kept hd, pruneAll_eq_self below _ ih]

end Rose

namespace Tree

/-- The copy that pruning makes if nothing is dropped has the shape of its source. -/
theorem Linked.prune_nothing (h : Linked t kids) (hid : id < t.size) {σ : Type} {drop : Test σ}
    (hdrop : ∀ x s, (drop x s).1 = false) (s : σ) : ∃ copy,
      (t.prune drop id s).1 = some copy ∧ copy.Reachable ∧ copy.shape root = t.shape id := by
  have hcopy : (t.prune drop id s).1 = some (ofRose (t.shape id)) := by
    rw [h.prune_eq hid, Rose.prune_eq_self hdrop, Option.map_some, shape]
  exact ⟨_, hcopy, reachable_ofRose (t.shape id), shape_ofRose (t.shape id)⟩

/-- However two trees were built, nodes of the same shape give the same answers. In particular,
the copy that pruning makes if nothing is dropped gives the answers of its source. -/
theorem answers_eq_of_shape_eq (ht : t.Reachable) (hu : u.Reachable)
    (hshape : t.shape id = u.shape id') :
    SameAnswers t id u id' ∧
    (id < t.size → ∀ {σ : Type} (drop : Test σ) (s : σ), (∀ x s, (drop x s).1 = false) →
      ∃ copy, (t.prune drop id s).1 = some copy ∧ copy.Reachable ∧
        copy.shape root = t.shape id ∧ SameAnswers t id copy root) := by
  refine ⟨ht.linked.sameAnswers hu.linked hshape, fun hid σ drop s hdrop => ?_⟩
  obtain ⟨copy, hcopy, hreachable, hsame⟩ := ht.linked.prune_nothing hid hdrop s
  exact ⟨copy, hcopy, hreachable, hsame, ht.linked.sameAnswers hreachable.linked hsame.symm⟩

/-- A list built from its top down, as the only child of a document. -/
def listDown : Tree :=
  (single .document).run
    [.addChild 0 (.element (.named "ul" [])), .addChild 1 (.element (.named "li" [])),
      .addChild 2 (.text "a & b")]

/-- The same list built from its item up and attached at the end, behind a comment; beside it
there is a text that is attached nowhere. -/
def listUp : Tree :=
  (single .error).run
    [.add (.text "scrap"), .add (.element (.named "li" [])), .addChild 2 (.text "a & b"),
      .addChild 0 (.comment "list"), .add (.element (.named "ul" [])), .attach 5 2, .attach 0 5]

/-- The list is written the same, though the nodes of the one are 1, 2, 3 and those of the other
5, 2, 3. -/
theorem answers_listDown : listDown.Reachable ∧ listUp.Reachable ∧
    (listDown.rose 1).toList = [1, 2, 3] ∧ (listUp.rose 5).toList = [5, 2, 3] ∧
    SameAnswers listDown 1 listUp 5 ∧
    ∃ copy, (listDown.prune (Test.pure fun _ => false) 1 ()).1 = some copy ∧
      SameAnswers listDown 1 copy root := by
  have ht : listDown.Reachable := ⟨_, _, rfl⟩
  have hu : listUp.Reachable := ⟨_, _, rfl⟩
  have hshape : listDown.shape 1 = listUp.shape 5 := by cbv
  obtain ⟨hanswers, hcopy⟩ := answers_eq_of_shape_eq ht hu hshape
  obtain ⟨copy, hprune, -, -, hsame⟩ :=
    hcopy (by decide) (Test.pure fun _ => false) () fun _ _ => rfl
  exact ⟨ht, hu, by decide +kernel, by decide +kernel, hanswers, copy, hprune, hsame⟩

end Tree

end Hypertext
