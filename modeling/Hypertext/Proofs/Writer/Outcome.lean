import Hypertext.Proofs.Output.Buffer
import Hypertext.Proofs.Output.Straight
import Hypertext.Proofs.Writer.Faults
import Hypertext.Proofs.Writer.Spacing

/-!
# How markup and layouts end

Both writers go through a tree in the same order and have the same two faults to report. A layout
passes over what stands below a void element, and markup does not let it pass; only in an element
with literal content a layout is markup. So a layout ends as the markup of a tree that has been
shorn of what a layout passes over (`Rose.fault_laidOut`).

* `Rose.shorn_of_markup`: where there is markup, nothing is shorn off.
* `Linked.shorn_shape`: nothing is shorn off where no void element has children.
* `layout_outcome`: markup that succeeds goes with a layout that succeeds, and without children of
  void elements both end in the same way.
-/

namespace Hypertext

/-! ## Faults of trees in order -/

theorem Passage.fault_append (a b : Passage) : (a ++ b).fault = a.fault.or b.fault := by
  obtain ⟨text, _ | f⟩ := a <;> rfl

theorem fault_markupOfAll (literal : Bool) : ∀ rs : List (Rose Content),
    (markupOfAll literal rs).fault = rs.findSome? fun r => (markupOf literal r).fault
  | [] => rfl
  | r :: rest => by
    rw [markupOfAll, Passage.fault_append, fault_markupOfAll literal rest, List.findSome?_cons]
    cases (markupOf literal r).fault <;> rfl

theorem fault_literalMarkup (r : Rose Content) :
    (literalMarkup r).fault = (markupOf false r).fault := by
  obtain ⟨content, below⟩ := r
  cases content <;> rfl

theorem fault_literalMarkupAll (rs : List (Rose Content)) :
    (literalMarkupAll rs).fault = (markupOfAll false rs).fault := by
  induction rs with
  | nil => rfl
  | cons r rest ih =>
    rw [literalMarkupAll, markupOfAll, Passage.fault_append, Passage.fault_append,
      fault_literalMarkup, ih]

theorem fault_markupOf_void {e : Element} (hv : Tag.isVoid e.tag) (literal : Bool)
    {below : List (Rose Content)} (hne : below ≠ []) :
    (markupOf literal (.node (.element e) below)).fault = some (.voidElementChildren e.name) := by
  rw [markupOf, if_pos hv, if_neg (by simpa using hne)]
  rfl

theorem fault_markupOf_element {e : Element} (hv : ¬ Tag.isVoid e.tag) (literal : Bool)
    (below : List (Rose Content)) : (markupOf literal (.node (.element e) below)).fault =
      (markupOfAll (Tag.isLiteral e.tag) below).fault := by
  rw [markupOf, if_neg hv]
  simp only [Passage.fault_append, Option.none_or, Option.or_none]

theorem Passage.fault_andThen_eq_none {p : Passage} {next : List Char → Passage} :
    (p.andThen next).fault = none ↔ p.fault = none ∧ (next p.text).fault = none :=
  ⟨Passage.fault_andThen, fun ⟨hp, hnext⟩ => by rwa [Passage.andThen_none hp]⟩

theorem Passage.fault_andThen_eq_some {p : Passage} {next : List Char → Passage} {f : Fault}
    (h : (p.andThen next).fault = some f) : p.fault = some f ∨ (next p.text).fault = some f := by
  cases hp : p.fault with
  | none =>
    rw [Passage.andThen_none hp] at h
    exact .inr h
  | some g =>
    rw [Passage.andThen_some hp, hp] at h
    exact .inl h

/-- A second step whose fault does not depend on the text. -/
theorem Passage.fault_andThen_of {p : Passage} {next : List Char → Passage} {fault : Option Fault}
    (h : ∀ text, (next text).fault = fault) : (p.andThen next).fault = p.fault.or fault := by
  cases hp : p.fault with
  | none => rw [Passage.andThen_none hp, h, Option.none_or]
  | some f => rw [Passage.andThen_some hp, hp, Option.some_or]

/-- A second step that does not fail. -/
theorem Passage.fault_andThen_mk (p : Passage) (step : List Char → List Char) :
    (p.andThen fun text => ⟨step text, none⟩).fault = p.fault := by
  cases hp : p.fault with
  | none => rw [Passage.andThen_none hp]
  | some f => rw [Passage.andThen_some hp, hp]

/-- A fault in the layout of trees in order is one of a tree among them. -/
theorem exists_fault_of_laidOutAll {o : LayoutOptions} {level : Nat} {f : Fault} :
    ∀ {rs : List (Rose Content)} {text : List Char}, (laidOutAll o level rs text).fault = some f →
      ∃ r ∈ rs, ∃ text, (laidOut o level r text).fault = some f
  | [], _, h => nomatch h
  | r :: _, text, h => by
    rw [laidOutAll] at h
    rcases Passage.fault_andThen_eq_some h with h | h
    · exact ⟨r, List.mem_cons_self, text, h⟩
    · obtain ⟨r', hr', hfault⟩ := exists_fault_of_laidOutAll h
      exact ⟨r', List.mem_cons_of_mem r hr', hfault⟩

/-- If trees are laid out in order without a fault, each of them is. -/
theorem laidOut_of_laidOutAll {o : LayoutOptions} {level : Nat} :
    ∀ {rs : List (Rose Content)} {text : List Char}, (laidOutAll o level rs text).fault = none →
      ∀ r ∈ rs, ∃ text, (laidOut o level r text).fault = none
  | [], _, _, _, hr => absurd hr List.not_mem_nil
  | _ :: _, text, h, r', hr' => by
    rw [laidOutAll, Passage.fault_andThen_eq_none] at h
    rcases List.mem_cons.mp hr' with rfl | hr'
    · exact ⟨text, h.1⟩
    · exact laidOut_of_laidOutAll h.2 r' hr'

/-- The end of the last line does not fail. -/
theorem fault_layoutOf (o : LayoutOptions) (r : Rose Content) :
    (layoutOf o r).fault = (laidOut o o.level.toNat r []).fault :=
  Passage.fault_andThen_mk _ _

/-! ## What a layout passes over -/

namespace Rose

variable {o : LayoutOptions} {level : Nat} {literal : Bool}

mutual

/-- A tree without what stands below its void elements. An element with literal content stays as
it is. -/
def shorn : Rose Content → Rose Content
  | .node content below =>
    .node content (match content with
      | .document => shornAll below
      | .element e =>
        if Tag.isVoid e.tag then []
        else if Tag.isLiteral e.tag then below
        else shornAll below
      | _ => below)

/-- Trees in order, each of them shorn. -/
def shornAll : List (Rose Content) → List (Rose Content)
  | [] => []
  | r :: rest => shorn r :: shornAll rest

end

theorem shornAll_eq : ∀ rs : List (Rose Content), shornAll rs = rs.map shorn
  | [] => rfl
  | r :: rest => by rw [shornAll, shornAll_eq rest, List.map_cons]

theorem shorn_document (below : List (Rose Content)) :
    shorn (.node .document below) = .node .document (below.map shorn) := by
  rw [shorn, shornAll_eq]

theorem shorn_element (e : Element) (below : List (Rose Content)) :
    shorn (.node (.element e) below) = .node (.element e)
      (if Tag.isVoid e.tag then [] else if Tag.isLiteral e.tag then below
        else below.map shorn) := by
  rw [shorn, shornAll_eq]

/-- Trees in order fail in a layout as they do shorn in markup, if each of them does. -/
theorem fault_laidOutAll : ∀ {rs : List (Rose Content)},
    (∀ r ∈ rs, ∀ text, (laidOut o level r text).fault = (markupOf false r.shorn).fault) →
    ∀ text, (laidOutAll o level rs text).fault = (markupOfAll false (rs.map shorn)).fault
  | [], _, _ => rfl
  | r :: rest, h, text => by
    have hrest := fault_laidOutAll fun x hx => h x (List.mem_cons_of_mem r hx)
    rw [laidOutAll, Passage.fault_andThen_of hrest, h r List.mem_cons_self, List.map_cons,
      markupOfAll, Passage.fault_append]

/-- A tree fails in a layout as it does shorn in markup, by induction on it. -/
theorem fault_laidOut (r : Rose Content) (level : Nat) (text : List Char) :
    (laidOut o level r text).fault = (markupOf literal r.shorn).fault := by
  induction r generalizing literal level text with
  | node content below ih =>
    have hbelow : ∀ level text, (laidOutAll o level below text).fault =
        (markupOfAll false (below.map shorn)).fault := fun level =>
      fault_laidOutAll fun r hr text => ih r hr level text
    cases content with
    | document =>
      rw [shorn_document]
      exact hbelow level text
    | element e =>
      rw [shorn_element]
      by_cases hv : Tag.isVoid e.tag
      · rw [laidOut_void hv, if_pos hv, markupOf, if_pos hv]
        rfl
      rw [if_neg hv, fault_markupOf_element hv]
      by_cases hl : Tag.isLiteral e.tag
      · simp only [laidOut_literal hv hl, Passage.fault_andThen_mk, Passage.mk_none_append,
          literalMarkupAll_eq, hl, if_true]
      · simp only [laidOut_element hv hl, Passage.fault_andThen_mk, hbelow, hl, if_false,
          Bool.false_eq_true]
    | _ => rfl

/-- A tree that has markup has nothing below void elements where a layout could come to it. -/
theorem shorn_of_markup {r : Rose Content} (h : (markupOf literal r).fault = none) :
    r.shorn = r := by
  induction r generalizing literal with
  | node content below ih =>
    have hbelow : ∀ {literal : Bool}, (markupOfAll literal below).fault = none →
        below.map shorn = below := by
      intro literal hf
      rw [fault_markupOfAll, List.findSome?_eq_none_iff] at hf
      exact (List.map_congr_left fun r hr => ih r hr (hf r hr)).trans (List.map_id below)
    cases content with
    | document => rw [shorn_document, hbelow h]
    | element e =>
      rw [shorn_element]
      by_cases hv : Tag.isVoid e.tag
      · have hnil : below = [] := by
          by_contra hne
          rw [fault_markupOf_void hv literal hne] at h
          cases h
        rw [if_pos hv, hnil]
      · rw [fault_markupOf_element hv] at h
        rw [if_neg hv, hbelow h, ite_self]
    | _ => rfl

end Rose

namespace Tree

variable {t : Tree} {kids : NodeId → List NodeId} {id : NodeId}

/-- At and below `id`, no void element has children. -/
def VoidsAreEmpty (t : Tree) (id : NodeId) : Prop :=
  ∀ x, t.AtOrBelow id x → Tag.isVoid (t.contentAt x).tag? → t.children x = []

namespace Linked

theorem fault_markup (h : Linked t kids) (id : NodeId) :
    (t.markup id).fault = (markupOf false (t.shape id)).fault :=
  congrArg Passage.fault (h.markup_passage id)

theorem fault_layout (h : Linked t kids) (o : LayoutOptions) (id : NodeId) :
    (t.layout o id).fault = (laidOut o o.level.toNat (t.shape id) []).fault :=
  (congrArg Passage.fault (h.layout_passage o id)).trans (fault_layoutOf o _)

/-- A layout ends as the markup of the shorn tree. -/
theorem fault_layout_shorn (h : Linked t kids) (o : LayoutOptions) (id : NodeId) :
    (t.layout o id).fault = (markupOf false (t.shape id).shorn).fault :=
  (h.fault_layout o id).trans (Rose.fault_laidOut _ _ _)

/-- Where no void element has children there is nothing to shear off, by induction on the tree. -/
theorem shorn_shape (h : Linked t kids) (hempty : t.VoidsAreEmpty id) :
    (t.shape id).shorn = t.shape id := by
  induction id using h.induction with
  | step id ih =>
    have hbelow : ((t.children id).map t.shape).map Rose.shorn = (t.children id).map t.shape := by
      rw [List.map_map]
      exact List.map_congr_left fun c hc => ih c hc fun x hx => hempty x (.child hc hx)
    rw [h.shape_eq]
    cases hc : t.contentAt id with
    | document => rw [Rose.shorn_document, hbelow]
    | element e =>
      rw [Rose.shorn_element, hbelow, ite_self]
      by_cases hv : Tag.isVoid e.tag
      · rw [if_pos hv, hempty id (.refl t id) (by rw [hc]; exact hv), List.map_nil]
      · rw [if_neg hv]
    | _ => rfl

/-- Where no void element has children, only an error node can be at fault. -/
theorem eq_errorNode_of_markup (h : Linked t kids) (hempty : t.VoidsAreEmpty id) {f : Fault}
    (hf : (t.markup id).fault = some f) : f = .errorNode := by
  rw [h.fault_markup, ← h.passage_turns, fault_passageAlong] at hf
  obtain ⟨x, hx, hfault⟩ := List.exists_of_findSome?_eq_some hf
  have hbelow : t.AtOrBelow id x := (((h.lists_visited id).mem_iff x).mp hx).1
  rw [faultAt] at hfault
  cases hc : t.contentAt x with
  | error =>
    rw [hc] at hfault
    exact (Option.some.inj hfault).symm
  | element e =>
    simp only [hc] at hfault
    split at hfault
    · next hcrowded =>
      rw [Bool.and_eq_true] at hcrowded
      rw [hempty x hbelow (by rw [hc]; exact hcrowded.1)] at hcrowded
      cases hcrowded.2
    · cases hfault
  | _ =>
    rw [hc] at hfault
    cases hfault

end Linked

end Tree

/-- Markup sent straight to a sink without limit, and a layout sent to one through a buffer. If
there is markup there is a layout, and if the layout fails so does the markup. Where no void element
has children, both end in the same way: they succeed, or they report an error node. -/
theorem layout_outcome {t : Tree} (ht : t.Reachable) (o : LayoutOptions) (id : NodeId) :
    let markup := ((t.markup id).into { capacity := .unlimited }).2
    let layout := ((t.layout o id).buffered { capacity := .unlimited }).2
    (markup = .ok () → layout = .ok ()) ∧
    (∀ error, layout = .error error → ∃ error', markup = .error error') ∧
    (t.VoidsAreEmpty id →
      layout = markup ∧ (layout = .ok () ∨ layout = .error (.fault .errorNode))) := by
  intro markup layout
  have h := ht.linked
  have hmarkup : markup = (t.markup id).report true := (Output.into_unlimited _).2
  have hlayout : layout = (t.layout o id).report true := (Output.buffered_unlimited _).2
  have hok : markup = .ok () → layout = .ok () := by
    rw [hmarkup, hlayout, Output.report_eq_ok_iff, Output.report_eq_ok_iff,
      h.fault_layout_shorn, h.fault_markup]
    intro hf
    rw [Rose.shorn_of_markup hf, hf]
  refine ⟨hok, fun error herror => ?_, fun hempty => ?_⟩
  · cases hresult : markup with
    | ok =>
      rw [hok hresult] at herror
      cases herror
    | error error' => exact ⟨error', rfl⟩
  · have hsame : (t.layout o id).fault = (t.markup id).fault := by
      rw [h.fault_layout_shorn, h.shorn_shape hempty, h.fault_markup]
    have hequal : layout = markup := by
      simp only [hlayout, hmarkup, Output.report, hsame]
    refine ⟨hequal, ?_⟩
    cases hf : (t.markup id).fault with
    | none => exact .inl (hequal.trans (hmarkup.trans (Output.report_none hf)))
    | some f =>
      obtain rfl := h.eq_errorNode_of_markup hempty hf
      exact .inr (hequal.trans (hmarkup.trans (Output.report_some hf)))

/-- A page with a picture and a script, and an error node behind them. -/
def unfinishedPage : Tree :=
  (Tree.single .document).run
    [.addChild 0 (.element (.named "img" [⟨"alt", "a"⟩])), .addChild 0 (.element (.named "script" [])),
      .addChild 2 (.element (.named "b" [])), .addChild 3 (.text "x"), .addChild 0 .error]

/-- The layout of the broken page passes over the text below its line break and fails at the error
node behind, so there is no markup either. On the unfinished page both fail at the error node, and
its script alone can be written in both ways. -/
theorem layout_outcome_pages : Tree.brokenPage.Reachable ∧ unfinishedPage.Reachable ∧
    ((Tree.brokenPage.layout {} Tree.root).buffered { capacity := .unlimited }).2 =
      .error (.fault .errorNode) ∧
    (∃ error, ((Tree.brokenPage.markup Tree.root).into { capacity := .unlimited }).2 =
      .error error) ∧
    unfinishedPage.VoidsAreEmpty Tree.root ∧
    ((unfinishedPage.layout {} Tree.root).buffered { capacity := .unlimited }).2 =
      .error (.fault .errorNode) ∧
    ((unfinishedPage.markup Tree.root).into { capacity := .unlimited }).2 =
      .error (.fault .errorNode) ∧
    ((unfinishedPage.markup 2).into { capacity := .unlimited }).2 = .ok () ∧
    ((unfinishedPage.layout {} 2).buffered { capacity := .unlimited }).2 = .ok () := by
  have hbroken : Tree.brokenPage.Reachable := ⟨_, _, rfl⟩
  have ht : unfinishedPage.Reachable := ⟨_, _, rfl⟩
  have hlayout : ((Tree.brokenPage.layout {} Tree.root).buffered { capacity := .unlimited }).2 =
      .error (.fault .errorNode) :=
    (Output.buffered_unlimited _).2.trans (Output.report_some (by decide +kernel))
  have hmarkup : ((unfinishedPage.markup Tree.root).into { capacity := .unlimited }).2 =
      .error (.fault .errorNode) :=
    (Output.into_unlimited _).2.trans (Output.report_some (by decide +kernel))
  have hscript : ((unfinishedPage.markup 2).into { capacity := .unlimited }).2 = .ok () :=
    (Output.into_unlimited _).2.trans (Output.report_none (by decide +kernel))
  have hall : ∀ x ∈ (unfinishedPage.rose Tree.root).toList,
      Tag.isVoid (unfinishedPage.contentAt x).tag? → unfinishedPage.children x = [] := by
    decide +kernel
  have hempty : unfinishedPage.VoidsAreEmpty Tree.root := fun x hx =>
    hall x (ht.linked.mem_rose.mpr hx)
  obtain ⟨-, hfails, -⟩ := layout_outcome hbroken {} Tree.root
  obtain ⟨-, -, hsame⟩ := layout_outcome ht {} Tree.root
  obtain ⟨hsucceeds, -, -⟩ := layout_outcome ht {} 2
  exact ⟨hbroken, ht, hlayout, hfails _ hlayout, hempty, (hsame hempty).1.trans hmarkup, hmarkup,
    hscript, hsucceeds hscript⟩

end Hypertext
