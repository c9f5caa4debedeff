import Hypertext.Proofs.Loop.PlainText
import Hypertext.Proofs.Loop.SameShape

/-!
# What is hung below texts

A text may get children like any other node. Walks and searches do not look below it, and neither
do the writers of markup and of layouts, so they give the same answers whatever is hung there
(`Tree.KeepsAnswers`). The nodes that they can see are those without a text strictly above them
(`Tree.shown`); a request below a text changes none of them but the text itself
(`Linked.sameShown_step`), and so does a row of such requests (`Linked.sameShown_run`).

Plain text is different, as its writer goes below texts like below other nodes: what hangs there is
added to it, unless it says nothing.

* `Tree.answers_below_texts`: all answers, before and after.
* `Tree.plainText_below_text`: a text below a text changes the plain text.
-/

namespace Hypertext.Tree

variable {t u v : Tree} {kids kids' : NodeId → List NodeId} {id x c : NodeId}

/-- What the request asks for is not at or below `id`, or it is at or below a text there. -/
def Request.BelowTexts (t : Tree) (id : NodeId) (r : Request) : Prop :=
  ∀ p, r.parent? = some p → t.AtOrBelow id p →
    ∃ x, t.AtOrBelow id x ∧ t.isText x ∧ t.AtOrBelow x p

/-- So it is with each of the requests, in the tree to which it comes. -/
def BelowTexts (id : NodeId) : Tree → List Request → Prop
  | _, [] => True
  | t, r :: requests => r.BelowTexts t id ∧ BelowTexts id (t.step r) requests

namespace Linked

theorem mem_shown_self (h : Linked t kids) (id : NodeId) : id ∈ t.shown id := by
  rw [shown, h.reached_rose]
  exact List.mem_cons_self

theorem mem_shown_child (h : Linked t kids) (hx : x ∈ t.shown id) (htext : ¬ t.isText x)
    (hc : c ∈ t.children x) : c ∈ t.shown id := by
  obtain ⟨hidx, hfree⟩ := h.mem_reached.mp hx
  refine h.mem_reached.mpr ⟨hidx.tail hc, fun a ⟨hida, hac, hne⟩ => ?_⟩
  -- What is strictly above the child is the node itself, or strictly above it.
  obtain rfl | ⟨p, hap, hcp⟩ := Relation.ReflTransGen.cases_tail hac
  · exact absurd rfl hne
  · obtain rfl : p = x :=
      Option.some.inj ((h.mem_children.mp hcp).symm.trans (h.mem_children.mp hc))
    by_cases hax : a = p
    · exact hax ▸ htext
    · exact hfree a ⟨hida, hap, hax⟩

end Linked

/-- What is shown at and below `id` in `t` is shown in `u` as well, and nothing else. -/
structure SameShown (t : Tree) (id : NodeId) (u : Tree) : Prop where
  shown_eq : u.shown id = t.shown id
  content?_eq : ∀ x ∈ t.shown id, u.content? x = t.content? x
  children_eq : ∀ x ∈ t.shown id, ¬ t.isText x → u.children x = t.children x

namespace SameShown

theorem refl (t : Tree) (id : NodeId) : SameShown t id t where
  shown_eq := rfl
  content?_eq _ _ := rfl
  children_eq _ _ _ := rfl

theorem isText_eq (hs : SameShown t id u) (hx : x ∈ t.shown id) : u.isText x = t.isText x := by
  rw [isText, isText, hs.content?_eq x hx]

theorem trans (hs : SameShown t id u) (hs' : SameShown u id v) : SameShown t id v where
  shown_eq := hs'.shown_eq.trans hs.shown_eq
  content?_eq x hx := by
    rw [hs'.content?_eq x (hs.shown_eq ▸ hx), hs.content?_eq x hx]
  children_eq x hx htext := by
    rw [hs'.children_eq x (hs.shown_eq ▸ hx) (hs.isText_eq hx ▸ htext), hs.children_eq x hx htext]

/-- The nodes that are shown are read alike. -/
theorem readAlike (hs : SameShown t id u) (h : Linked t kids) :
    ReadAlike t u fun x x' => x = x' ∧ x ∈ t.shown id where
  contentAt := by
    rintro x _ ⟨rfl, hx⟩
    rw [Tree.contentAt, Tree.contentAt, hs.content?_eq x hx]
  children := by
    rintro x _ ⟨rfl, hx⟩ htext
    rw [hs.children_eq x hx htext]
    exact List.forall₂_same.mpr fun c hc => ⟨rfl, h.mem_shown_child hx htext hc⟩

end SameShown

/-- A request below texts leaves alone what is shown. -/
theorem Linked.sameShown_step (h : Linked t kids) (hid : id < t.size) {r : Request}
    (hr : r.BelowTexts t id) : SameShown t id (t.step r) := by
  obtain ⟨kids', h'⟩ := h.step r
  have g := h.grows_step r
  have hlt : ∀ x ∈ t.shown id, x < t.size := fun x hx =>
    h.lt_of_mem_rose hid ((Rose.reached_sublist _ _).subset hx)
  have hchildren : ∀ x ∈ t.shown id, ¬ t.isText x → (t.step r).children x = t.children x := by
    intro x hx htext
    obtain ⟨hidx, hfree⟩ := h.mem_reached.mp hx
    refine h.children_step fun hparent => ?_
    obtain ⟨a, hida, ha, hax⟩ := hr x hparent hidx
    by_cases hne : a = x
    · exact htext (hne ▸ ha)
    · exact hfree a ⟨hida, hax, hne⟩ ha
  exact {
    shown_eq := h.reached_congr h' (fun x hx => g.isText_eq (hlt x hx)) hchildren
    content?_eq := fun x hx => g.content?_eq (hlt x hx)
    children_eq := hchildren }

/-- Requests below texts leave alone what is shown. -/
theorem Linked.sameShown_run : ∀ {t : Tree} {kids : NodeId → List NodeId}
    (requests : List Request), Linked t kids → id < t.size → BelowTexts id t requests →
      SameShown t id (t.run requests)
  | t, _, [], _, _, _ => .refl t id
  | _, _, r :: requests, h, hid, ⟨hr, hrest⟩ =>
    have ⟨_, h'⟩ := h.step r
    have hid' := Nat.lt_of_lt_of_le hid (h.grows_step r).size_le
    (h.sameShown_step hid hr).trans (sameShown_run requests h' hid' hrest)

/-! ## Answers -/

/-- The answers of walks, searches and the writers of markup and layouts at `id` are the same in
`u` as in `t`. -/
structure KeepsAnswers (t : Tree) (id : NodeId) (u : Tree) : Prop where
  walk : ∀ n, Walk.take u n (Walk.start id) = Walk.take t n (Walk.start id)
  /-- The first node that satisfies a test on what nodes hold, and the state after the search. -/
  first : ∀ {σ : Type} (p : Content → σ → Bool × σ) (s : σ),
    Search.first? u (Test.onContent u p) id s = Search.first? t (Test.onContent t p) id s
  /-- All such nodes, as far as they are asked for, and what is pending then. -/
  search : ∀ {σ : Type} (p : Content → σ → Bool × σ) (s : σ) (n : Nat),
    Search.take u (Test.onContent u p) n (Search.start id) s =
      Search.take t (Test.onContent t p) n (Search.start id) s
  /-- All such nodes below `id`. -/
  below : ∀ {σ : Type} (p : Content → σ → Bool × σ) (s : σ) (n : Nat),
    Search.take u (Test.onContent u p) n (Search.below u id) s =
      Search.take t (Test.onContent t p) n (Search.below t id) s
  markup : u.markup id = t.markup id
  layout : ∀ o, u.layout o id = t.layout o id

/-- Lists of nodes that are shown and the same place by place. -/
theorem eq_of_forall₂_shown {xs ys : List NodeId}
    (h : List.Forall₂ (fun x x' => x = x' ∧ x ∈ t.shown id) xs ys) : ys = xs := by
  have hsame : List.Forall₂ Eq xs ys := h.imp fun _ _ hx => hx.1
  rw [List.forall₂_eq_eq_eq] at hsame
  exact hsame.symm

namespace SameShown

variable (hs : SameShown t id u) (h : Linked t kids) (h' : Linked u kids')
include hs h h'

theorem walk_take_eq (n : Nat) :
    Walk.take u n (Walk.start id) = Walk.take t n (Walk.start id) := by
  obtain ⟨hfound, hleft⟩ :=
    Walk.take_forall₂ h h' (hs.readAlike h) ⟨rfl, h.mem_shown_self id⟩ n
  exact Prod.ext (eq_of_forall₂_shown hfound) (congrArg Walk.mk (eq_of_forall₂_shown hleft))

theorem search_take_eq {σ : Type} (p : Content → σ → Bool × σ) (s : σ) (n : Nat) {w : Search}
    (hpending : ∀ x ∈ w.pending, x ∈ t.shown id)
    (hahead : (Search.ahead t w).Sublist (t.rose id).toList)
    (hahead' : (Search.ahead u w).Sublist (u.rose id).toList) :
    Search.take u (Test.onContent u p) n w s = Search.take t (Test.onContent t p) n w s := by
  obtain ⟨pending⟩ := w
  have halike := hs.readAlike h
  have hsame : ∀ x x' s s', x = x' ∧ x ∈ t.shown id → s = s' →
      (Test.onContent t p x s).1 = (Test.onContent u p x' s').1 ∧
        (Test.onContent t p x s).2 = (Test.onContent u p x' s').2 := by
    intro x x' s s' hx hs
    rw [Test.onContent, Test.onContent, halike.contentAt hx, hs]
    exact ⟨rfl, rfl⟩
  obtain ⟨hfound, hleft, hstate⟩ := Search.take_forall₂ h h' halike
    (List.forall₂_same.mpr fun x hx => ⟨rfl, hpending x hx⟩) hahead hahead' hsame (Eq.refl s) n
  exact Prod.ext (eq_of_forall₂_shown hfound)
    (Prod.ext (congrArg Search.mk (eq_of_forall₂_shown hleft)) hstate.symm)

/-- Whoever sees the same gives the same answers. -/
theorem keepsAnswers : KeepsAnswers t id u := by
  have halike := hs.readAlike h
  have hself := h.mem_shown_self id
  have hsearch : ∀ {σ : Type} (p : Content → σ → Bool × σ) (s : σ) (n : Nat),
      Search.take u (Test.onContent u p) n (Search.start id) s =
        Search.take t (Test.onContent t p) n (Search.start id) s := fun p s n =>
    hs.search_take_eq h h' p s n (List.forall_mem_singleton.mpr hself)
      (by rw [Search.ahead_start]) (by rw [Search.ahead_start])
  have hbelow : Search.below u id = Search.below t id := by
    refine congrArg Search.mk (?_ : (Search.below u id).pending = (Search.below t id).pending)
    rw [Search.pending_below h, Search.pending_below h', hs.isText_eq hself]
    split
    · rfl
    · next htext => exact hs.children_eq id hself htext
  exact {
    walk := hs.walk_take_eq h h'
    first := fun p s => by rw [Search.first?_eq_take, Search.first?_eq_take, hsearch]
    search := hsearch
    below := fun p s n => by
      have hahead' := Search.ahead_below_sublist h' id
      rw [hbelow] at hahead' ⊢
      refine hs.search_take_eq h h' p s n (fun x hx => ?_) (Search.ahead_below_sublist h id)
        hahead'
      rw [Search.pending_below h] at hx
      split at hx
      · cases hx
      · next htext => exact h.mem_shown_child hself htext hx
    markup := (halike.markup_eq h h' ⟨rfl, hself⟩).symm
    layout := fun o => (halike.layout_eq h h' ⟨rfl, hself⟩ o).symm }

end SameShown

/-- A node that is read for plain text only after requests below texts is below a text. -/
theorem SameShown.text_above (hs : SameShown t id u) (g : Grows t u) (h : Linked t kids)
    (h' : Linked u kids') (hid : id < t.size) (hx : x ∈ u.plainNodes id)
    (hnot : x ∉ t.plainNodes id) : ∃ a, u.StrictlyAbove id a x ∧ u.isText a := by
  obtain ⟨hidx, hfree⟩ := h'.mem_reached.mp hx
  by_contra hno
  -- Without a text above it the node was shown before, and the writer came to it.
  have hshown : x ∈ u.shown id := h'.mem_reached.mpr ⟨hidx, fun a ha htext => hno ⟨a, ha, htext⟩⟩
  rw [hs.shown_eq] at hshown
  obtain ⟨hidx', -⟩ := h.mem_reached.mp hshown
  refine hnot (h.mem_reached.mpr ⟨hidx', fun a ha => ?_⟩)
  have hlt := h.lt_of_mem_rose hid (h.mem_rose.mpr ha.1)
  rw [← g.endsPlain_eq hlt]
  exact hfree a (g.strictlyAbove ha)

/-- Requests below the texts at and below a node change nothing of what walks and searches find
there and of its markup and its layouts. Its plain text keeps its writes and may get others from
nodes below those texts; it stays the same just when these have nothing to say. -/
theorem answers_below_texts (ht : t.Reachable) (hid : id < t.size) (requests : List Request)
    (hbelow : BelowTexts id t requests) :
    KeepsAnswers t id (t.run requests) ∧
      (t.plainText id).writes.toList.Sublist ((t.run requests).plainText id).writes.toList ∧
      (∀ x ∈ (t.run requests).plainNodes id, x ∉ t.plainNodes id →
        ∃ a, (t.run requests).StrictlyAbove id a x ∧ (t.run requests).isText a) ∧
      (((t.run requests).plainText id).text = (t.plainText id).text ↔
        ∀ x ∈ (t.run requests).plainNodes id, x ∉ t.plainNodes id →
          ((t.run requests).plainWrite? x).getD "" = "") := by
  have h := ht.linked
  obtain ⟨kids', h'⟩ := h.run requests
  have hs := h.sameShown_run requests hid hbelow
  have g := h.grows_run requests
  exact ⟨hs.keepsAnswers h h', g.writes_plainText_sublist h h' hid,
    fun x hx hnot => hs.text_above g h h' hid hx hnot, g.plainText_eq_iff h h' hid⟩

/-- A paragraph with a text. -/
def paragraph : Tree :=
  (single .document).run [.addChild 0 (.element (.named "p" [])), .addChild 1 (.text "a")]

/-- An element with a further text, hung below the text of the paragraph. -/
def afterthought : List Request :=
  [.addChild 2 (.element (.named "b" [])), .addChild 3 (.text "b")]

theorem belowTexts_afterthought : BelowTexts root paragraph afterthought := by
  refine ⟨fun p hp _ => ⟨2, ?_, by decide +kernel, ?_⟩,
    fun p hp _ => ⟨2, ?_, by decide +kernel, ?_⟩, trivial⟩
  · exact .child (c := 1) (by decide +kernel) (.child (by decide +kernel) (.refl _ 2))
  · obtain rfl : 2 = p := Option.some.inj hp
    exact .refl _ 2
  · exact .child (c := 1) (by decide +kernel) (.child (by decide +kernel) (.refl _ 2))
  · obtain rfl : 3 = p := Option.some.inj hp
    exact .child (by decide +kernel) (.refl _ 3)

/-- The markup of the paragraph is the same with what is hung below its text and without. -/
theorem answers_afterthought : paragraph.Reachable ∧ BelowTexts root paragraph afterthought ∧
    ((paragraph.run afterthought).markup root).text = "<p>a</p>" ∧
    KeepsAnswers paragraph root (paragraph.run afterthought) := by
  have ht : paragraph.Reachable := ⟨_, _, rfl⟩
  obtain ⟨hkeeps, -⟩ :=
    answers_below_texts ht (by decide) afterthought belowTexts_afterthought
  refine ⟨ht, belowTexts_afterthought, ?_, hkeeps⟩
  rw [hkeeps.markup]
  decide +kernel

/-- Its plain text is not. -/
theorem plainText_below_text : paragraph.Reachable ∧
    BelowTexts root paragraph afterthought ∧ (paragraph.plainText root).text = "a" ∧
    ((paragraph.run afterthought).plainText root).text = "ab" :=
  ⟨⟨_, _, rfl⟩, belowTexts_afterthought, by decide +kernel, by decide +kernel⟩

end Hypertext.Tree
