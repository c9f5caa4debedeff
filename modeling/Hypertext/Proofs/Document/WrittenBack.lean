import Hypertext.Program
import Hypertext.Proofs.Document.Copy
import Hypertext.Proofs.Document.Leaves
import Hypertext.Proofs.Writer.Literal
import Hypertext.Proofs.Writer.Outcome

/-!
# Documents that cannot be written back

The tag of an element depends on its name alone, so an element of MathML or SVG may have the tag
of a void element though it has children (`Dom.Misread`). A writer reports an error when it comes
to such an element, and in a document that was read it finds nothing else to report
(`Dom.Sound.misread_of_markup`, `Dom.Sound.misread_of_laidOut`). Markup leads to every element. A
layout passes over what is below a void tag, and so it comes to such an element only in elements
whose content is literal, which it writes as markup.

* `parse_writtenBack`: a document that was read has markup unless it has a misread element, and a
  layout unless it has one in literal content; otherwise the error names such an element.
-/

namespace Hypertext

open Document

namespace Document.Dom

/-- An element of MathML or SVG has children although its name is that of a void element. -/
def Misread (e : Dom) (name : String) : Prop :=
  ∃ v attributes, e.part = .element ⟨v, name⟩ attributes ∧ v ≠ .html ∧
    Tag.isVoid (Tag.ofName? name) ∧ e.children ≠ []

/-- The text in an element is written as it stands. -/
def Literal (e : Dom) : Prop :=
  ∃ q attributes, e.part = .element q attributes ∧ Tag.isLiteral (Tag.ofName? q.name)

/-- A part stands somewhere in a document, and no element above it has the name of a void
element. -/
inductive Open (e : Dom) : Dom → Prop where
  | self : e.Open e
  | child {part : Part} {children : List Dom} {c : Dom} (hpart : ¬ part.content.isLeaf)
    (hc : c ∈ children) (h : e.Open c) : e.Open (.node part children)

end Document.Dom

/-! ## Misread elements -/

namespace Document.Dom

variable {d e l : Dom} {part : Part} {children : List Dom} {q : Name}
  {attributes : List Attribute} {name : String} {f : Fault}

theorem Open.isIn (h : e.Open d) : e.In d := by
  induction h with
  | self => exact .self
  | child _ hc _ ih => exact .child hc ih

/-- An element with children and the tag of a void element is misread, if it was read. -/
theorem Sound.misread (h : Sound (.node (.element q attributes) children))
    (hv : Tag.isVoid (Tag.ofName? q.name)) (hne : children ≠ []) :
    Misread (.node (.element q attributes) children) q.name := by
  refine ⟨q.vocabulary, attributes, rfl, fun hhtml => ?_, hv, hne⟩
  have hholds := h _ .self hne
  simp [Dom.part, Part.canHold, Name.isVoid, hhtml, hv] at hholds

/-- What stands above something else was read as the document or an element. -/
theorem Sound.document_or_element (h : Sound (.node part children)) (hne : children ≠ []) :
    part = .document ∨ ∃ q attributes, part = .element q attributes := by
  have hholds := h _ .self hne
  cases part with
  | document => exact .inl rfl
  | element q attributes => exact .inr ⟨q, attributes, rfl⟩
  | _ => cases hholds

/-- A fault in the markup of the children is one of a child. -/
theorem exists_fault_of_children {literal : Bool}
    (h : (markupOfAll literal (children.map contents)).fault = some f) :
    ∃ c ∈ children, (markupOf literal c.contents).fault = some f := by
  rw [fault_markupOfAll] at h
  obtain ⟨r, hr, hfault⟩ := List.exists_of_findSome?_eq_some h
  obtain ⟨c, hc, rfl⟩ := List.mem_map.mp hr
  exact ⟨c, hc, hfault⟩

theorem markup_of_children {literal : Bool} {c : Dom}
    (h : (markupOfAll literal (children.map contents)).fault = none) (hc : c ∈ children) :
    (markupOf literal c.contents).fault = none := by
  rw [fault_markupOfAll, List.findSome?_eq_none_iff] at h
  exact h _ (List.mem_map_of_mem hc)

/-- The markup of a document that was read fails at misread elements only. -/
theorem Sound.misread_of_markup (h : d.Sound) {literal : Bool}
    (hf : (markupOf literal d.contents).fault = some f) :
    ∃ (e : Dom) (name : String), e.In d ∧ e.Misread name ∧ f = .voidElementChildren name := by
  induction d generalizing literal with
  | node part children ih =>
    have below : ∀ {literal : Bool}, (markupOfAll literal (children.map contents)).fault = some f →
        ∃ (e : Dom) (name : String), e.In (.node part children) ∧ e.Misread name ∧
          f = .voidElementChildren name := by
      intro literal hf
      obtain ⟨c, hc, hf⟩ := exists_fault_of_children hf
      obtain ⟨e, name, hin, hmisread⟩ := ih c hc (h.child hc) hf
      exact ⟨e, name, .child hc hin, hmisread⟩
    rw [contents_node] at hf
    cases part with
    | document => exact below hf
    | element q attributes =>
      rw [Part.content] at hf
      by_cases hv : Tag.isVoid (Element.named q.name attributes).tag
      · cases children with
        | nil =>
          rw [List.map_nil, markupOf, if_pos hv] at hf
          cases hf
        | cons c rest =>
          rw [fault_markupOf_void hv _ (by simp)] at hf
          exact ⟨_, q.name, .self, h.misread hv (List.cons_ne_nil c rest),
            (Option.some.inj hf).symm⟩
      · rw [fault_markupOf_element hv] at hf
        exact below hf
    | _ => cases hf

/-- No markup without a fault has a misread element in it. -/
theorem Sound.not_misread_of_markup (h : d.Sound) (hin : e.In d) {literal : Bool}
    (hf : (markupOf literal d.contents).fault = none) : ¬ e.Misread name := by
  induction hin generalizing literal with
  | self =>
    obtain ⟨part, children⟩ := e
    rintro ⟨v, attributes, rfl, -, hv, hne⟩
    have hbelow : children.map contents ≠ [] := by simpa [Dom.children] using hne
    rw [contents_node, Part.content, fault_markupOf_void hv _ hbelow] at hf
    cases hf
  | @child part children c hc he ih =>
    rw [contents_node] at hf
    have hne := List.ne_nil_of_mem hc
    obtain rfl | ⟨q, attributes, rfl⟩ := h.document_or_element hne
    · exact ih (h.child hc) (markup_of_children hf hc)
    · rw [Part.content] at hf
      by_cases hv : Tag.isVoid (Element.named q.name attributes).tag
      · rw [fault_markupOf_void hv _ (by simpa using hne)] at hf
        cases hf
      · rw [fault_markupOf_element hv] at hf
        exact ih (h.child hc) (markup_of_children hf hc)

/-! ## Misread elements in literal content -/

/-- The layout of a document that was read fails at misread elements in literal content only. -/
theorem Sound.misread_of_laidOut (h : d.Sound) {o : LayoutOptions} {level : Nat}
    {text : List Char} (hf : (laidOut o level d.contents text).fault = some f) :
    ∃ (l e : Dom) (name : String), l.Open d ∧ l.Literal ∧ e.In l ∧ e.Misread name ∧
      f = .voidElementChildren name := by
  induction d generalizing level text with
  | node part children ih =>
    have below : ∀ {level : Nat} {text : List Char}, ¬ part.content.isLeaf →
        (laidOutAll o level (children.map contents) text).fault = some f →
        ∃ (l e : Dom) (name : String), l.Open (.node part children) ∧ l.Literal ∧ e.In l ∧
          e.Misread name ∧ f = .voidElementChildren name := by
      intro level text hpart hf
      obtain ⟨r, hr, text, hf⟩ := exists_fault_of_laidOutAll hf
      obtain ⟨c, hc, rfl⟩ := List.mem_map.mp hr
      obtain ⟨l, e, name, hopen, hrest⟩ := ih c hc (h.child hc) hf
      exact ⟨l, e, name, .child hpart hc hopen, hrest⟩
    rw [contents_node] at hf
    cases part with
    | document => exact below Bool.false_ne_true hf
    | element q attributes =>
      rw [Part.content] at hf
      by_cases hv : Tag.isVoid (Element.named q.name attributes).tag
      · rw [laidOut_void hv] at hf
        cases hf
      · by_cases hl : Tag.isLiteral (Element.named q.name attributes).tag
        · rw [laidOut_literal hv hl] at hf
          rcases Passage.fault_andThen_eq_some hf with hf | hf
          · rw [Passage.fault_append, Option.none_or, fault_literalMarkupAll] at hf
            obtain ⟨c, hc, hf⟩ := exists_fault_of_children hf
            obtain ⟨e, name, hin, hmisread⟩ := (h.child hc).misread_of_markup hf
            exact ⟨_, e, name, .self, ⟨q, attributes, rfl, hl⟩, .child hc hin, hmisread⟩
          · cases hf
        · rw [laidOut_element hv hl] at hf
          rcases Passage.fault_andThen_eq_some hf with hf | hf
          · exact below hv hf
          · cases hf
    | _ => cases hf

/-- An element with literal content does not have the name of a void element. -/
theorem Literal.not_misread (h : d.Literal) : ¬ d.Misread name := by
  obtain ⟨q, attributes, hpart, hl⟩ := h
  rintro ⟨v, attributes', hpart', -, hv, -⟩
  obtain ⟨rfl, -⟩ := Part.element.inj (hpart.symm.trans hpart')
  exact Bool.eq_false_iff.mp
    (not_block_of_literal (e := Element.named name attributes) hl).2 hv

/-- Where the content of an element is written as markup, there is no misread element in it. -/
theorem Sound.not_misread_of_children (h : Sound (.node part children)) {c : Dom}
    (hc : c ∈ children) (hin : e.In c) {literal : Bool}
    (hf : (markupOfAll literal (children.map contents)).fault = none) : ¬ e.Misread name :=
  (h.child hc).not_misread_of_markup hin (markup_of_children hf hc)

/-- No layout without a fault has a misread element in its literal content. -/
theorem Sound.not_misread_of_laidOut (h : d.Sound) (hopen : l.Open d) (hl : l.Literal)
    (hin : e.In l) {o : LayoutOptions} {level : Nat} {text : List Char}
    (hf : (laidOut o level d.contents text).fault = none) : ¬ e.Misread name := by
  induction hopen generalizing level text with
  | self =>
    cases hin with
    | self => exact hl.not_misread
    | @child part children c hc hin =>
      obtain ⟨q, attributes, rfl, hliteral⟩ := hl
      have hv := Bool.eq_false_iff.mp
        (not_block_of_literal (e := Element.named q.name attributes) hliteral).2
      rw [contents_node, Part.content, laidOut_literal hv hliteral,
        Passage.fault_andThen_eq_none, Passage.fault_append, fault_literalMarkupAll] at hf
      exact h.not_misread_of_children hc hin hf.1
  | @child part children c hpart hc hopen ih =>
    rw [contents_node] at hf
    have below : ∀ {level : Nat} {text : List Char},
        (laidOutAll o level (children.map contents) text).fault = none → ¬ e.Misread name := by
      intro level text hf
      obtain ⟨text, hf⟩ := laidOut_of_laidOutAll hf _ (List.mem_map_of_mem hc)
      exact ih (h.child hc) hf
    obtain rfl | ⟨q, attributes, rfl⟩ := h.document_or_element (List.ne_nil_of_mem hc)
    · exact below hf
    · rw [Part.content] at hf
      by_cases hliteral : Tag.isLiteral (Element.named q.name attributes).tag
      · rw [laidOut_literal hpart hliteral, Passage.fault_andThen_eq_none, Passage.fault_append,
          fault_literalMarkupAll] at hf
        exact h.not_misread_of_children hc (hin.trans hopen.isIn) hf.1
      · rw [laidOut_element hpart hliteral, Passage.fault_andThen_eq_none] at hf
        exact below hf.1

end Document.Dom

/-! ## Reading and writing back -/

/-- The tree of a text that was read has the shape of the document. -/
theorem shape_parse (html : String) : (parse html).Reachable ∧
    (parse html).shape Tree.root = (read html.toList).contents := by
  have hpart := part_read html.toList
  rw [parse]
  generalize read html.toList = d at hpart
  obtain ⟨part, children⟩ := d
  cases hpart
  exact ⟨Document.Dom.reachable_toTree children, Document.Dom.shape_toTree children⟩

theorem fault_markup_parse (html : String) : ((parse html).markup Tree.root).fault =
    (markupOf false (read html.toList).contents).fault := by
  obtain ⟨hreachable, hshape⟩ := shape_parse html
  rw [← hshape, hreachable.linked.fault_markup]

theorem fault_layout_parse (html : String) (o : LayoutOptions) :
    ((parse html).layout o Tree.root).fault =
      (laidOut o o.level.toNat (read html.toList).contents []).fault := by
  obtain ⟨hreachable, hshape⟩ := shape_parse html
  rw [← hshape, hreachable.linked.fault_layout]

/-- The layout of a document that was read has no fault if its literal content has no misread
element in it. -/
theorem layout_parse (html : String) (o : LayoutOptions) :
    ((parse html).layout o Tree.root).fault = none ↔ ∀ (l e : Dom) name,
      l.Open (read html.toList) → l.Literal → e.In l → ¬ e.Misread name := by
  have hread := sound_read html.toList
  rw [fault_layout_parse]
  refine ⟨fun hf l e name hopen hl hin => hread.not_misread_of_laidOut hopen hl hin hf,
    fun h => ?_⟩
  cases hf : (laidOut o o.level.toNat (read html.toList).contents []).fault with
  | none => rfl
  | some f =>
    obtain ⟨l, e, name, hopen, hl, hin, hmisread, -⟩ := hread.misread_of_laidOut hf
    exact absurd hmisread (h l e name hopen hl hin)

theorem Output.text?_eq_ok {o : Output} : (∃ text, o.text? = .ok text) ↔ o.fault = none := by
  rw [Output.text?]
  cases o.fault <;> simp

theorem Output.text?_eq_error {o : Output} {f : Fault} :
    o.text? = .error f ↔ o.fault = some f := by
  rw [Output.text?]
  cases o.fault <;> simp

/-- What is reported of an output that a sink without limit takes is its fate. -/
theorem Output.buffered_unlimited_eq_ok (o : Output) :
    (o.buffered { capacity := .unlimited }).2 = .ok () ↔ o.fault = none := by
  rw [o.buffered_unlimited.2]
  cases hf : o.fault with
  | none => simp [Output.report_none hf]
  | some f => simp [Output.report_some hf]

theorem Output.buffered_unlimited_eq_error (o : Output) {error : WriteError} :
    (o.buffered { capacity := .unlimited }).2 = .error error ↔
      ∃ f, o.fault = some f ∧ error = .fault f := by
  rw [o.buffered_unlimited.2]
  cases hf : o.fault with
  | none => simp [Output.report_none hf]
  | some f => simp [Output.report_some hf, eq_comm]

/-- The program is successful if the layout has no fault. -/
theorem Program.status_run (input : Bytes) : (Program.run input).status = 0 ↔
    ((parseBytes input).layout { trailingNewline := true } Tree.root).fault = none := by
  rw [← Output.buffered_unlimited_eq_ok]
  unfold Program.run
  dsimp only
  split
  · next hsent => simp [hsent]
  · next hsent => simp [hsent]

/-- Documents that were read can be written back, unless they have elements of MathML or SVG with
children that bear the names of void elements. The markup fails exactly if there is such an
element anywhere, and the layout exactly if there is one in an element with literal content that
has no element with such a name above it; what is reported then is the name of an element of this
kind. So the program ends well exactly if the document that its input stands for has none in
literal content. -/
theorem parse_writtenBack (html : String) (o : LayoutOptions) (input : Bytes) :
    let document := read html.toList
    let markup := ((parse html).markup Tree.root).text?
    let laidOut := (((parse html).layout o Tree.root).buffered { capacity := .unlimited }).2
    ((∃ text, markup = .ok text) ↔ ∀ (e : Dom) name, e.In document → ¬ e.Misread name) ∧
    (∀ f, markup = .error f → ∃ (e : Dom) (name : String), e.In document ∧ e.Misread name ∧
      f = .voidElementChildren name) ∧
    (laidOut = .ok () ↔ ∀ (l e : Dom) name, l.Open document → l.Literal → e.In l →
      ¬ e.Misread name) ∧
    (∀ f, laidOut = .error f → ∃ (l e : Dom) (name : String), l.Open document ∧ l.Literal ∧
      e.In l ∧ e.Misread name ∧ f = .fault (.voidElementChildren name)) ∧
    ((Program.run input).status = 0 ↔ ∀ (l e : Dom) name, l.Open (read (Charset.decode input).1) →
      l.Literal → e.In l → ¬ e.Misread name) := by
  intro document markup laidOut
  have hread : document.Sound := sound_read html.toList
  refine ⟨Output.text?_eq_ok.trans ⟨fun hf e name hin => ?_, fun h => ?_⟩, fun f hf => ?_,
    (Output.buffered_unlimited_eq_ok _).trans (layout_parse html o), fun error herror => ?_, ?_⟩
  · rw [fault_markup_parse] at hf
    exact hread.not_misread_of_markup hin hf
  · rw [fault_markup_parse]
    cases hf : (markupOf false document.contents).fault with
    | none => rfl
    | some f =>
      obtain ⟨e, name, hin, hmisread, -⟩ := hread.misread_of_markup hf
      exact absurd hmisread (h e name hin)
  · rw [Output.text?_eq_error, fault_markup_parse] at hf
    exact hread.misread_of_markup hf
  · obtain ⟨f, hf, rfl⟩ := (Output.buffered_unlimited_eq_error _).mp herror
    rw [fault_layout_parse] at hf
    obtain ⟨l, e, name, hopen, hl, hin, hmisread, rfl⟩ := hread.misread_of_laidOut hf
    exact ⟨l, e, name, hopen, hl, hin, hmisread, rfl⟩
  · rw [Program.status_run, parseBytes, layout_parse, String.toList_ofList]

/-- A drawing in which a style sheet is linked in a style: neither the markup nor the layout of
the page can be written. -/
theorem parse_not_writtenBack :
    let t := parse "<svg><style><link>x</link></style></svg>"
    (t.markup Tree.root).text? = .error (.voidElementChildren "link") ∧
    ((t.layout { trailingNewline := true } Tree.root).buffered { capacity := .unlimited }).2 =
      .error (.fault (.voidElementChildren "link")) ∧
    (Program.run (bytesOf "<svg><style><link>x</link></style></svg>")).status = 1 := by
  refine ⟨?_, ?_, ?_⟩
  · rw [Output.text?_eq_error]
    decide +kernel
  · rw [Output.buffered_unlimited_eq_error]
    exact ⟨_, by decide +kernel, rfl⟩
  · rw [bytesOf_eq]
    decide +kernel

end Hypertext
