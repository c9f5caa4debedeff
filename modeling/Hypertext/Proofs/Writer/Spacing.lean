import Hypertext.Proofs.Writer.Layout

/-!
# The whitespace of a layout

A layout adds whitespace to a tree and nothing else. Without it, what is written is the segments
of the tree in order (`segments`): tags, texts, comments and doctypes, and what is written as it
stands. `Gap` and `Ending` say which whitespace may come before and after a segment, and `Spread`
that one text continues another by segments with such whitespace around them.

* `spread_laidOut`: the layout of a tree continues a text by its segments, by induction on it.
* `layout_eq_spaced`: a whole layout is its segments with whitespace around them.
-/

namespace Hypertext

/-- A part of a layout that no whitespace is put into. -/
inductive Segment where
  | startTag (e : Element)
  | endTag (e : Element)
  | text (data : String)
  | comment (data : String)
  | doctype (d : Doctype)
  /-- A raw node, or the content of an element with literal content. -/
  | verbatim (chars : List Char)

namespace Segment

/-- What is written for a segment. -/
def chars : Segment → List Char
  | .startTag e => e.bareMarkup
  | .endTag e => '<' :: '/' :: e.name.toList ++ ['>']
  | .text data => escaped data
  | .comment data => commentMarkup data
  | .doctype d => d.markup
  | .verbatim chars => chars

/-- Whether a segment is a tag of a block element. -/
def IsBlockTag : Segment → Prop
  | .startTag e | .endTag e => Tag.isBlock e.tag
  | _ => False

/-- Whether a segment is indented when it comes first on its line. -/
def TakesMargin : Segment → Prop
  | .startTag _ | .endTag _ | .text _ | .comment _ => True
  | .doctype _ | .verbatim _ => False

/-- Whether the line ends behind a segment. -/
def EndsLine : Segment → Prop
  | .startTag e => Tag.isBlock e.tag
  | .doctype _ => True
  | _ => False

end Segment

/-- The whitespace that may come before a segment: a margin where it takes one, and also the end
of a line before a tag of a block element. -/
inductive Gap (o : LayoutOptions) (p : Segment) : List Char → Prop where
  | none : Gap o p []
  | margin (level : Nat) (h : p.TakesMargin) : Gap o p (margin o level)
  | line (level : Nat) (h : p.IsBlockTag) : Gap o p ('\n' :: margin o level)

/-- The whitespace that may come after a segment: the end of a line. -/
inductive Ending (p : Segment) : List Char → Prop where
  | none : Ending p []
  | line (h : p.EndsLine) : Ending p ['\n']

/-- A segment with whitespace around it. -/
structure Spaced where
  before : List Char
  segment : Segment
  after : List Char

/-- What is written for a segment with the whitespace around it. -/
def Spaced.chars (s : Spaced) : List Char :=
  s.before ++ s.segment.chars ++ s.after

/-- The whitespace around a segment is what may be there. -/
def Spaced.Allowed (o : LayoutOptions) (s : Spaced) : Prop :=
  Gap o s.segment s.before ∧ Ending s.segment s.after

mutual

/-- The segments of a tree in order. The content of an element with literal content is its markup,
and a void element has neither content nor end tag. -/
def segments : Rose Content → List Segment
  | .node .document below => segmentsAll below
  | .node (.element e) below =>
    .startTag e ::
      if Tag.isVoid e.tag then []
      else (if Tag.isLiteral e.tag then [.verbatim (markupOfAll true below).text]
        else segmentsAll below) ++ [.endTag e]
  | .node (.text data) _ => [.text data]
  | .node (.comment data) _ => [.comment data]
  | .node (.doctype d) _ => [.doctype d]
  | .node (.raw data) _ => [.verbatim data.toList]
  | .node .error _ => []

/-- The segments of trees in order. -/
def segmentsAll : List (Rose Content) → List Segment
  | [] => []
  | r :: rest => segments r ++ segmentsAll rest

end

/-! ## Continuing a text by segments -/

/-- The text `after` continues the text `before` by segments with whitespace around them. -/
def Spread (o : LayoutOptions) (before : List Char) (ps : List Segment)
    (after : List Char) : Prop :=
  ∃ spaced : List Spaced, after = before ++ spaced.flatMap Spaced.chars ∧
    spaced.map Spaced.segment = ps ∧ ∀ s ∈ spaced, s.Allowed o

variable {o : LayoutOptions} {level : Nat} {text text' text'' before after : List Char}
  {p : Segment} {ps qs : List Segment} {e : Element} {below : List (Rose Content)}

namespace Spread

theorem refl (o : LayoutOptions) (text : List Char) : Spread o text [] text :=
  ⟨[], (List.append_nil text).symm, rfl, fun _ hs => absurd hs List.not_mem_nil⟩

theorem trans (h : Spread o text ps text') (h' : Spread o text' qs text'') :
    Spread o text (ps ++ qs) text'' := by
  obtain ⟨spaced, rfl, rfl, hallowed⟩ := h
  obtain ⟨spaced', rfl, rfl, hallowed'⟩ := h'
  refine ⟨spaced ++ spaced', ?_, List.map_append, fun s hs => ?_⟩
  · rw [List.flatMap_append, List.append_assoc]
  · rcases List.mem_append.mp hs with hs | hs
    · exact hallowed s hs
    · exact hallowed' s hs

/-- A text with one more segment behind it. -/
theorem segment (text : List Char) (hb : Gap o p before) (ha : Ending p after) :
    Spread o text [p] (text ++ before ++ p.chars ++ after) := by
  refine ⟨[⟨before, p, after⟩], ?_, rfl, fun s hs => ?_⟩
  · simp [Spaced.chars]
  · obtain rfl := List.mem_singleton.mp hs
    exact ⟨hb, ha⟩

/-- A text with one more segment behind it, after which the line goes on. -/
theorem inLine (text : List Char) (hb : Gap o p before) :
    Spread o text [p] (text ++ before ++ p.chars) := by
  have h := Spread.segment text hb .none
  rwa [List.append_nil] at h

/-- What is written as it stands has no whitespace around it. -/
theorem verbatim (o : LayoutOptions) (text chars : List Char) :
    Spread o text [.verbatim chars] (text ++ chars) := by
  have h := Spread.inLine (o := o) (p := .verbatim chars) text .none
  rwa [List.append_nil] at h

end Spread

/-- A margin at the beginning of a line is a gap before a segment that takes one. -/
theorem exists_gap_margined (o : LayoutOptions) (level : Nat) (text : List Char)
    (h : p.TakesMargin) : ∃ before, margined o level text = text ++ before ∧ Gap o p before := by
  rw [margined]
  split
  · exact ⟨_, rfl, .margin level h⟩
  · exact ⟨[], (List.append_nil text).symm, .none⟩

/-- The end of a line and a margin are a gap before a tag of a block element. -/
theorem exists_gap_lineEnded (o : LayoutOptions) (level : Nat) (text : List Char)
    (h : p.TakesMargin) (hb : p.IsBlockTag) :
    ∃ before, lineEnded text ++ margin o level = text ++ before ∧ Gap o p before := by
  rw [lineEnded]
  split
  · exact ⟨_, rfl, .margin level h⟩
  · exact ⟨_, List.append_assoc text _ _, .line level hb⟩

theorem spread_opened (o : LayoutOptions) (e : Element) (level : Nat) (text : List Char) :
    Spread o text [.startTag e] (opened o e level text) := by
  rw [opened]
  by_cases hb : Tag.isBlock e.tag
  · obtain ⟨before, heq, hgap⟩ :=
      exists_gap_lineEnded (p := .startTag e) o level text trivial hb
    rw [if_pos hb, margined, if_pos (lineBegins_lineEnded text), heq]
    exact .segment text hgap (.line hb)
  · obtain ⟨before, heq, hgap⟩ := exists_gap_margined (p := .startTag e) o level text trivial
    rw [if_neg hb, heq]
    exact .inLine text hgap

theorem spread_closed (o : LayoutOptions) (e : Element) (level : Nat) (text : List Char) :
    Spread o text [.endTag e] (closed o e level text) := by
  rw [closed]
  split
  · next hb =>
    obtain ⟨before, heq, hgap⟩ :=
      exists_gap_lineEnded (p := .endTag e) o level text trivial hb
    rw [heq]
    exact .inLine text hgap
  · obtain ⟨before, heq, hgap⟩ := exists_gap_margined (p := .endTag e) o level text trivial
    rw [heq]
    exact .inLine text hgap

theorem spread_doctype (o : LayoutOptions) (d : Doctype) (text : List Char) :
    Spread o text [.doctype d] (lineEnded (text ++ d.markup)) := by
  have hinLine := Spread.inLine (o := o) (p := .doctype d) text .none
  have hended := Spread.segment (o := o) (p := .doctype d) text .none (.line trivial)
  rw [List.append_nil] at hinLine hended
  rw [lineEnded]
  split
  · exact hinLine
  · exact hended

/-! ## The segments of a layout -/

theorem literalMarkup_eq (r : Rose Content) : literalMarkup r = markupOf true r := by
  obtain ⟨content, below⟩ := r
  cases content <;> rfl

/-- The content of an element with literal content is its markup. -/
theorem literalMarkupAll_eq : ∀ below : List (Rose Content),
    literalMarkupAll below = markupOfAll true below
  | [] => rfl
  | r :: rest => by rw [literalMarkupAll, literalMarkup_eq, literalMarkupAll_eq rest, markupOfAll]

/-- The layouts of trees in order continue a text by their segments, if that of each does. -/
theorem spread_laidOutAll : ∀ (rs : List (Rose Content)) (text : List Char),
    (∀ r ∈ rs, ∀ text, (laidOut o level r text).fault = none →
      Spread o text (segments r) (laidOut o level r text).text) →
    (laidOutAll o level rs text).fault = none →
      Spread o text (segmentsAll rs) (laidOutAll o level rs text).text
  | [], text, _, _ => .refl o text
  | r :: rest, text, hrs, hf => by
    obtain ⟨hfirst, hrest⟩ := Passage.fault_andThen hf
    have hspread := spread_laidOutAll rest (laidOut o level r text).text
      (fun x hx => hrs x (List.mem_cons_of_mem r hx)) hrest
    rw [segmentsAll, laidOutAll, Passage.andThen_none hfirst]
    exact (hrs r List.mem_cons_self text hfirst).trans hspread

/-- An element is laid out as its segments, if the trees below it are. -/
theorem spread_element (hbelow : ∀ r ∈ below, ∀ level text,
      (laidOut o level r text).fault = none →
        Spread o text (segments r) (laidOut o level r text).text)
    (hf : (laidOut o level (.node (.element e) below) text).fault = none) :
    Spread o text (segments (.node (.element e) below))
      (laidOut o level (.node (.element e) below) text).text := by
  have hopened := spread_opened o e level text
  rw [segments]
  by_cases hv : Tag.isVoid e.tag
  · rw [if_pos hv, laidOut_void hv]
    exact hopened
  by_cases hl : Tag.isLiteral e.tag
  · rw [laidOut_literal hv hl] at hf ⊢
    rw [if_neg hv, if_pos hl]
    obtain ⟨hmarkup, -⟩ := Passage.fault_andThen hf
    simp only [Passage.andThen_none hmarkup]
    rw [literalMarkupAll_eq]
    exact hopened.trans ((Spread.verbatim _ _ _).trans (spread_closed o e level _))
  · rw [laidOut_element hv hl] at hf ⊢
    rw [if_neg hv, if_neg hl]
    obtain ⟨hinner, -⟩ := Passage.fault_andThen hf
    simp only [Passage.andThen_none hinner]
    have hspread := spread_laidOutAll below (opened o e level text)
      (fun r hr => hbelow r hr (level + 1)) hinner
    exact hopened.trans (hspread.trans (spread_closed o e level _))

/-- The layout of a tree continues a text by the segments of the tree, by induction on it. -/
theorem spread_laidOut (r : Rose Content) (level : Nat) (text : List Char)
    (hf : (laidOut o level r text).fault = none) :
    Spread o text (segments r) (laidOut o level r text).text := by
  induction r generalizing level text with
  | node content below ih =>
    cases content with
    | document => exact spread_laidOutAll below text (fun r hr => ih r hr level) hf
    | element e => exact spread_element ih hf
    | text data =>
      obtain ⟨before, heq, hgap⟩ := exists_gap_margined (p := .text data) o level text trivial
      rw [laidOut, heq]
      exact .inLine text hgap
    | comment data =>
      obtain ⟨before, heq, hgap⟩ := exists_gap_margined (p := .comment data) o level text trivial
      rw [laidOut, heq]
      exact .inLine text hgap
    | doctype d => exact spread_doctype o d text
    | raw data => exact .verbatim o text data.toList
    | error => cases hf

/-- A whole layout that succeeds is that of its tree, and perhaps a newline at the end. -/
theorem Tree.Linked.text_layout {t : Tree} {kids : NodeId → List NodeId} (h : t.Linked kids)
    (o : LayoutOptions) (id : NodeId) (hf : (t.layout o id).fault = none) :
    (laidOut o o.level.toNat (t.shape id) []).fault = none ∧ ∃ final : List Char,
      (t.layout o id).text =
        String.ofList ((laidOut o o.level.toNat (t.shape id) []).text ++ final) ∧
      (final = [] ∨ o.trailingNewline ∧ final = ['\n']) := by
  have hpassage := h.layout_passage o id
  have hfault : (layoutOf o (t.shape id)).fault = none := by
    rw [← hpassage]
    exact hf
  obtain ⟨hlaid, -⟩ := Passage.fault_andThen hfault
  have htext := Output.text_eq (t.layout o id)
  rw [hpassage, layoutOf, Passage.andThen_none hlaid] at htext
  refine ⟨hlaid, ?_⟩
  by_cases hnewline : o.trailingNewline
  · simp only [hnewline, if_true, lineEnded] at htext
    split at htext
    · exact ⟨[], by rw [htext, List.append_nil], .inl rfl⟩
    · exact ⟨['\n'], htext, .inr ⟨hnewline, rfl⟩⟩
  · simp only [hnewline, if_false, Bool.false_eq_true] at htext
    exact ⟨[], by rw [htext, List.append_nil], .inl rfl⟩

/-- A layout that succeeds is the segments of the tree in order with whitespace around them, and
perhaps a newline at the end. -/
theorem layout_eq_spaced {t : Tree} (ht : t.Reachable) (o : LayoutOptions) (id : NodeId)
    (hf : (t.layout o id).fault = none) : ∃ (spaced : List Spaced) (final : List Char),
      (t.layout o id).text = String.ofList (spaced.flatMap Spaced.chars ++ final) ∧
      spaced.map Spaced.segment = segments (t.shape id) ∧
      (∀ s ∈ spaced, s.Allowed o) ∧
      (final = [] ∨ o.trailingNewline ∧ final = ['\n']) := by
  obtain ⟨hlaid, final, htext, hfinal⟩ := ht.linked.text_layout o id hf
  obtain ⟨spaced, heq, hsegments, hallowed⟩ := spread_laidOut (t.shape id) o.level.toNat [] hlaid
  rw [List.nil_append] at heq
  exact ⟨spaced, final, heq ▸ htext, hsegments, hallowed, hfinal⟩

/-- A page with a bare attribute, a text, a line break and a script. -/
def scripted : Tree :=
  (Tree.single .document).run
    [.addChild 0 (.doctype ⟨"html", "", ""⟩), .addChild 0 (.element (.named "div" [⟨"id", ""⟩])),
      .addChild 2 (.text "1 < 2"), .addChild 2 (.element (.named "br" [])),
      .addChild 2 (.element (.named "script" [])), .addChild 5 (.text "x<y")]

/-- The layout of the page, and what it is without the added whitespace. -/
theorem layout_scripted : scripted.Reachable ∧
    (scripted.layout {} Tree.root).fault = none ∧ ∃ (spaced : List Spaced) (final : List Char),
      "<!DOCTYPE html>\n<div id>\n  1 &lt; 2<br><script>x<y</script>\n</div>" =
        String.ofList (spaced.flatMap Spaced.chars ++ final) ∧
      String.ofList ((spaced.map Spaced.segment).flatMap Segment.chars) =
        "<!DOCTYPE html><div id>1 &lt; 2<br><script>x<y</script></div>" := by
  have ht : scripted.Reachable := ⟨_, _, rfl⟩
  have hf : (scripted.layout {} Tree.root).fault = none := by decide +kernel
  obtain ⟨spaced, final, htext, hsegments, -, -⟩ := layout_eq_spaced ht {} Tree.root hf
  refine ⟨ht, hf, spaced, final, htext ▸ ?_, hsegments ▸ ?_⟩
  · decide +kernel
  · decide +kernel

end Hypertext
