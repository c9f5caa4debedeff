import Hypertext.Proofs.Loop.Writing

/-!
# Nodes that are read alike

A relation between the nodes of two trees lets them be read alike if related nodes hold the same,
and have related children in order (`Tree.ReadAlike`). Of the children of a text nothing is asked,
for walks, searches and the writers of markup and of layouts do not go below a text. From related
nodes on, their loops go in step:

* `Walk.take_forall₂`, `Search.take_forall₂`: walks and searches hand out related nodes and leave
  related nodes pending.
* `ReadAlike.markup_eq`, `ReadAlike.layout_eq`: the writers write the same, one write after another.

The writer of plain text is the exception: it goes below texts.
-/

namespace Hypertext

/-- Related nodes hold the same, and related nodes that are no texts have related children. -/
structure Tree.ReadAlike (t u : Tree) (R : NodeId → NodeId → Prop) : Prop where
  contentAt : ∀ {x x' : NodeId}, R x x' → t.contentAt x = u.contentAt x'
  children : ∀ {x x' : NodeId}, R x x' → ¬ t.isText x →
    List.Forall₂ R (t.children x) (u.children x')

variable {t u : Tree} {kids kids' : NodeId → List NodeId} {R : NodeId → NodeId → Prop}
  {id id' x x' : NodeId}

open Hypertext.Tree (ReadAlike)

theorem Tree.ReadAlike.isText (halike : ReadAlike t u R) (hx : R x x') :
    t.isText x = u.isText x' := by
  rw [isText_eq, isText_eq, halike.contentAt hx]

/-! ## Walks and searches -/

/-- Walks from related nodes on hand out related nodes. -/
theorem Walk.take_forall₂ (h : t.Linked kids) (h' : u.Linked kids') (halike : ReadAlike t u R)
    (hid : R id id') (n : Nat) :
    List.Forall₂ R (Walk.take t n (Walk.start id)).1 (Walk.take u n (Walk.start id')).1 ∧
      List.Forall₂ R (Walk.take t n (Walk.start id)).2.pending
        (Walk.take u n (Walk.start id')).2.pending := by
  have hround : ∀ x x' s s', R x x' → s = s' →
      Loop.InStep R Eq (fun r r' => Option.Rel R r.1 r'.1 ∧ r.2 = r'.2)
        ((loop t).round x s) ((loop u).round x' s') := by
    rintro x x' s _ hx rfl
    refine .stop ?_ ⟨.some hx, rfl⟩
    rw [← halike.isText hx]
    split
    · exact .nil
    · next htext =>
      refine List.rel_filter (fun c c' hc => ?_) (halike.children hx htext)
      show (!t.isText c) = true ↔ (!u.isText c') = true
      rw [halike.isText hc]
  obtain ⟨taken, left, hpulls, htake, -⟩ := exists_pulls h id n
  obtain ⟨taken', found', left', _, hpulls', -, hfound, hleft, -⟩ :=
    hpulls.simulate hround (fun _ _ hs => ⟨.none, hs⟩) [id'] () (.cons hid .nil) rfl
  obtain ⟨htake', -⟩ := take_eq h' hpulls'
  rw [htake, start, htake']
  exact ⟨hfound, hleft⟩

/-- Searches from related nodes on, with tests that give related nodes the same answers and take
corresponding states to corresponding states. -/
theorem Search.take_forall₂ {σ σ' : Type} {S : σ → σ' → Prop} {p : Test σ} {q : Test σ'}
    (h : t.Linked kids) (h' : u.Linked kids') (halike : ReadAlike t u R)
    {pending pending' : List NodeId} (hpending : List.Forall₂ R pending pending')
    (hahead : (ahead t ⟨pending⟩).Sublist (t.rose id).toList)
    (hahead' : (ahead u ⟨pending'⟩).Sublist (u.rose id').toList)
    (hp : ∀ x x' s s', R x x' → S s s' → (p x s).1 = (q x' s').1 ∧ S (p x s).2 (q x' s').2)
    {s : σ} {s' : σ'} (hs : S s s') (n : Nat) :
    List.Forall₂ R (Search.take t p n ⟨pending⟩ s).1 (Search.take u q n ⟨pending'⟩ s').1 ∧
      List.Forall₂ R (Search.take t p n ⟨pending⟩ s).2.1.pending
        (Search.take u q n ⟨pending'⟩ s').2.1.pending ∧
      S (Search.take t p n ⟨pending⟩ s).2.2 (Search.take u q n ⟨pending'⟩ s').2.2 := by
  have hround : ∀ x x' s s', R x x' → S s s' →
      Loop.InStep R S (fun r r' => Option.Rel R r.1 r'.1 ∧ S r.2 r'.2)
        ((loop t p).round x s) ((loop u q).round x' s') := by
    intro x x' s s' hx hs
    obtain ⟨hanswer, hstate⟩ := hp x x' s s' hx hs
    rw [round_loop, round_loop, hanswer]
    split
    · exact .stop .nil ⟨.some hx, hstate⟩
    · refine .next ?_ hstate
      rw [← halike.isText hx]
      split
      · exact .nil
      · next htext => exact halike.children hx htext
  obtain ⟨taken, found, left, s₁, hpulls, htake, -⟩ := exists_pulls h hahead p s n
  obtain ⟨taken', found', left', s₁', hpulls', -, hfound, hleft, hs₁⟩ :=
    hpulls.simulate hround (fun _ _ hs => ⟨.none, hs⟩) pending' s' hpending hs
  have hle := Nat.le_trans hahead'.length_le (h'.length_rose_le id')
  rw [htake, take_eq h' hpulls' hle]
  exact ⟨hfound, hleft, hs₁⟩

/-! ## Markup -/

/-- Tasks for nodes correspond if they do for related nodes. -/
theorem forall₂_nodes {τ : Type} {S : τ → τ → Prop} (node : NodeId → τ)
    (hnode : ∀ c c', R c c' → S (node c) (node c')) {ids ids' : List NodeId}
    (hids : List.Forall₂ R ids ids') : List.Forall₂ S (ids.map node) (ids'.map node) := by
  rw [List.forall₂_map_left_iff, List.forall₂_map_right_iff]
  exact hids.imp hnode

/-- A node that is known to hold something else than a text has children like a related one. -/
theorem Tree.ReadAlike.children_of_eq (halike : ReadAlike t u R) (hx : R x x') {content : Content}
    (hc : t.contentAt x = content) (htext : content.isText = false) :
    List.Forall₂ R (t.children x) (u.children x') :=
  halike.children hx (by rw [isText_eq, hc, htext]; exact Bool.false_ne_true)

namespace Markup

/-- Tasks that write the same: related nodes, and end tags of the same name. -/
inductive Task.Alike (R : NodeId → NodeId → Prop) : Task → Task → Prop where
  | node {x x' : NodeId} (literal : Bool) (h : R x x') :
      Alike R (.node x literal) (.node x' literal)
  | close (name : String) : Alike R (.close name) (.close name)

theorem forall₂_next (halike : ReadAlike t u R) (task task' : Task) (htask : task.Alike R task') :
    List.Forall₂ (Task.Alike R) (task.next t) (task'.next u) := by
  cases htask with
  | close name => exact .nil
  | @node x x' literal hx =>
    rw [Task.next, Task.next, ← halike.contentAt hx]
    split
    · next hc =>
      exact forall₂_nodes _ (fun _ _ => .node false) (halike.children_of_eq hx hc rfl)
    · next e hc =>
      split
      · exact .nil
      · refine List.rel_append ?_ ?_
        · exact forall₂_nodes _ (fun _ _ => .node _) (halike.children_of_eq hx hc rfl)
        · split
          · exact .nil
          · exact .cons (.close _) .nil
    · exact .nil

theorem startsWithNewline_congr (h : t.Linked kids) (h' : u.Linked kids')
    (halike : ReadAlike t u R) (hids : List.Forall₂ R (t.children x) (u.children x')) :
    startsWithNewline t x = startsWithNewline u x' := by
  rw [startsWithNewline_eq h, startsWithNewline_eq h']
  generalize t.children x = ids, u.children x' = ids' at hids
  cases hids with
  | nil => rfl
  | @cons c c' ids ids' hc hids =>
    rw [List.map_cons, List.map_cons, h.shape_eq c, h'.shape_eq c', halike.contentAt hc]
    cases u.contentAt c' <;> rfl

theorem writeElement_congr (h : t.Linked kids) (h' : u.Linked kids') (halike : ReadAlike t u R)
    (hids : List.Forall₂ R (t.children x) (u.children x')) (e : Element) (writes : Array String) :
    writeElement t x e writes = writeElement u x' e writes := by
  have hfirst : (t.first? x).isSome = (u.first? x').isSome := by
    rw [isSome_first? h, isSome_first? h', List.isEmpty_map, List.isEmpty_map]
    generalize t.children x = ids, u.children x' = ids' at hids
    cases hids <;> rfl
  rw [writeElement, writeElement, hfirst, startsWithNewline_congr h h' halike hids]

theorem write_congr (h : t.Linked kids) (h' : u.Linked kids') (halike : ReadAlike t u R)
    (task task' : Task) (writes : Array String) (htask : task.Alike R task') :
    task.write t writes = task'.write u writes := by
  cases htask with
  | close name => rfl
  | node literal hx =>
    rw [Task.write, Task.write, ← halike.contentAt hx]
    split
    case h_2 e hc =>
      exact writeElement_congr h h' halike (halike.children_of_eq hx hc rfl) e writes
    all_goals rfl

end Markup

/-- The markup of related nodes is the same, one write after another. -/
theorem Tree.ReadAlike.markup_eq (halike : ReadAlike t u R) (h : t.Linked kids)
    (h' : u.Linked kids') (hid : R id id') : t.markup id = u.markup id' := by
  obtain ⟨taken, left, hends, -⟩ := Markup.exists_ends h id
  obtain ⟨taken', left', hends', -⟩ := Markup.exists_ends h' id'
  exact Loop.writing_ends_eq (Markup.forall₂_next halike) (Markup.write_congr h h' halike)
    (.cons (.node false hid) .nil) hends hends'

/-! ## Layouts -/

namespace Layout

variable {o : LayoutOptions}

/-- Tasks that write the same: related nodes at one level, and end tags that agree. -/
inductive Task.Alike (R : NodeId → NodeId → Prop) : Task → Task → Prop where
  | node {x x' : NodeId} (level : UInt64) (h : R x x') :
      Alike R (.node x level) (.node x' level)
  | close (name : String) (level : UInt64) (block : Bool) :
      Alike R (.close name level block) (.close name level block)

theorem forall₂_next (halike : ReadAlike t u R) (task task' : Task) (htask : task.Alike R task') :
    List.Forall₂ (Task.Alike R) (task.next t) (task'.next u) := by
  cases htask with
  | close name level block => exact .nil
  | @node x x' level hx =>
    rw [Task.next, Task.next, ← halike.contentAt hx]
    split
    · next hc =>
      exact forall₂_nodes _ (fun _ _ => .node level) (halike.children_of_eq hx hc rfl)
    · next e hc =>
      split
      · exact .nil
      · exact List.rel_append
          (forall₂_nodes _ (fun _ _ => .node _) (halike.children_of_eq hx hc rfl))
          (.cons (.close _ _ _) .nil)
    · exact .nil

theorem content?_eq_text (t : Tree) (id : NodeId) (data : String) :
    t.content? id = some (.text data) ↔ t.contentAt id = .text data := by
  rw [Tree.contentAt]
  cases t.content? id with
  | none => simp
  | some content => rw [Option.getD_some, Option.some.injEq]

/-- The children of elements with literal content, one child after another. -/
theorem literalChildren_congr (h : t.Linked kids) (h' : u.Linked kids') (halike : ReadAlike t u R)
    {ids ids' : List NodeId} (hids : List.Forall₂ R ids ids') (p : Page) :
    literalChildren t ids p = literalChildren u ids' p := by
  induction hids generalizing p with
  | nil => rfl
  | @cons c c' ids ids' hc hids ih =>
    have hcontent := halike.contentAt hc
    by_cases htext : ∃ data, t.contentAt c = .text data
    · obtain ⟨data, hdata⟩ := htext
      have htext := (content?_eq_text t c data).mpr hdata
      have htext' := (content?_eq_text u c' data).mpr (hcontent ▸ hdata)
      simp only [literalChildren, htext, htext', ih]
    · have hnot : ∀ data, t.content? c ≠ some (.text data) := fun data hdata =>
        htext ⟨data, (content?_eq_text t c data).mp hdata⟩
      have hnot' : ∀ data, u.content? c' ≠ some (.text data) := fun data hdata =>
        htext ⟨data, hcontent.trans ((content?_eq_text u c' data).mp hdata)⟩
      rw [literalChildren_of_not_text hnot, literalChildren_of_not_text hnot', embed, embed,
        halike.markup_eq h h' hc]
      simp only [ih]

theorem write_congr (h : t.Linked kids) (h' : u.Linked kids') (halike : ReadAlike t u R)
    (o : LayoutOptions) (task task' : Task) (p : Page) (htask : task.Alike R task') :
    task.write t o p = task'.write u o p := by
  cases htask with
  | close name level block => rfl
  | node level hx =>
    rw [Task.write, Task.write, ← halike.contentAt hx]
    split
    case h_2 e hc =>
      have hchildren := halike.children_of_eq hx hc rfl
      rw [writeElement, writeElement, literalChildren_congr h h' halike hchildren]
    all_goals rfl

end Layout

/-- The layout of related nodes is the same, one write after another. -/
theorem Tree.ReadAlike.layout_eq (halike : ReadAlike t u R) (h : t.Linked kids)
    (h' : u.Linked kids') (hid : R id id') (o : LayoutOptions) :
    t.layout o id = u.layout o id' := by
  obtain ⟨taken, left, p, fault, hends, hlayout, -⟩ := Layout.exists_ends h o id
  obtain ⟨taken', left', p', fault', hends', hlayout', -⟩ := Layout.exists_ends h' o id'
  have hresult : (p, fault) = (p', fault') :=
    Loop.writing_ends_eq (Layout.forall₂_next halike) (Layout.write_congr h h' halike o)
      (.cons (.node o.level hid) .nil) hends hends'
  cases hresult
  rw [hlayout, hlayout']

end Hypertext
