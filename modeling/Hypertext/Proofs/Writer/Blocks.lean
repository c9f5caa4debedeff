import Mathlib.Data.Nat.ModEq
import Hypertext.Proofs.Writer.Faults
import Hypertext.Proofs.Writer.Spacing

/-!
# Blocks in a layout

A block element looks the same wherever it stands. What a layout depends on, of all that came
before, is whether it stands at the beginning of a line; behind a text that ends a line it is the
layout of the tree alone (`laidOut_append`), and a block element ends the line before it begins
(`laidOut_block`).

* `Linked.standsIn_laidOut`: a layout that goes down to a block element holds the layout of this
  element alone, from the beginning of a line on; by induction on the tree.
* `layout_block`: the element is indented by the number of elements that it stands in, and both of
  its tags begin lines of their own.
-/

namespace Hypertext

variable {o o' : LayoutOptions} {level : Nat} {text text' a b : List Char} {e : Element}
  {r : Rose Content} {rs below : List (Rose Content)}

/-! ## Behind the end of a line -/

theorem lineBegins_append (ha : lineBegins a) (b : List Char) :
    lineBegins (a ++ b) = lineBegins b := by
  rw [lineBegins, List.getLast?_append]
  cases hb : b.getLast? with
  | none =>
    rw [lineBegins, hb]
    exact ha
  | some c =>
    rw [lineBegins, hb]
    rfl

theorem lineEnded_append (ha : lineBegins a) (b : List Char) :
    lineEnded (a ++ b) = a ++ lineEnded b := by
  rw [lineEnded, lineEnded, lineBegins_append ha]
  split
  · rfl
  · rw [List.append_assoc]

theorem margined_append (ha : lineBegins a) (b : List Char) :
    margined o level (a ++ b) = a ++ margined o level b := by
  rw [margined, margined, lineBegins_append ha]
  split
  · rw [List.append_assoc]
  · rfl

theorem opened_append (ha : lineBegins a) (b : List Char) :
    opened o e level (a ++ b) = a ++ opened o e level b := by
  rw [opened, opened, lineEnded_append ha, margined_append ha, margined_append ha]
  split <;> simp only [List.append_assoc]

theorem closed_append (ha : lineBegins a) (b : List Char) :
    closed o e level (a ++ b) = a ++ closed o e level b := by
  rw [closed, closed, lineEnded_append ha, margined_append ha]
  split <;> simp only [List.append_assoc]

/-- A step behind a text that it leaves alone. -/
theorem Passage.andThen_append {p : Passage} {next : List Char → Passage}
    (h : ∀ b, next (a ++ b) = ⟨a, none⟩ ++ next b) :
    (⟨a, none⟩ ++ p : Passage).andThen next = ⟨a, none⟩ ++ p.andThen next := by
  obtain ⟨text, _ | f⟩ := p
  · exact h text
  · rfl

theorem laidOutAll_append_of : ∀ (rs : List (Rose Content)) (b : List Char),
    (∀ r ∈ rs, ∀ b, laidOut o level r (a ++ b) = ⟨a, none⟩ ++ laidOut o level r b) →
      laidOutAll o level rs (a ++ b) = ⟨a, none⟩ ++ laidOutAll o level rs b
  | [], _, _ => rfl
  | r :: rest, b, h => by
    rw [laidOutAll, laidOutAll, h r List.mem_cons_self]
    exact Passage.andThen_append fun b =>
      laidOutAll_append_of rest b fun x hx => h x (List.mem_cons_of_mem r hx)

theorem laidOut_element_append (ha : lineBegins a) (b : List Char)
    (ih : ∀ r ∈ below, ∀ level b,
      laidOut o level r (a ++ b) = ⟨a, none⟩ ++ laidOut o level r b) :
    laidOut o level (.node (.element e) below) (a ++ b) =
      ⟨a, none⟩ ++ laidOut o level (.node (.element e) below) b := by
  have hclosed : ∀ b, (⟨closed o e level (a ++ b), none⟩ : Passage) =
      ⟨a, none⟩ ++ ⟨closed o e level b, none⟩ := fun b => by
    rw [closed_append ha, Passage.mk_none_append]
  by_cases hv : Tag.isVoid e.tag
  · simp only [laidOut_void hv, opened_append ha, Passage.mk_none_append]
  by_cases hl : Tag.isLiteral e.tag
  · simp only [laidOut_literal hv hl, opened_append ha]
    rw [← Passage.mk_none_append a ⟨opened o e level b, none⟩, Passage.append_assoc]
    exact Passage.andThen_append hclosed
  · simp only [laidOut_element hv hl, opened_append ha]
    rw [laidOutAll_append_of below _ fun r hr => ih r hr (level + 1)]
    exact Passage.andThen_append hclosed

/-- Behind a text that ends a line the layout of a tree is what it is alone, by induction on the
tree. -/
theorem laidOut_append (ha : lineBegins a) (r : Rose Content) (level : Nat) (b : List Char) :
    laidOut o level r (a ++ b) = ⟨a, none⟩ ++ laidOut o level r b := by
  induction r generalizing level b with
  | node content below ih =>
    cases content with
    | document => exact laidOutAll_append_of below b fun r hr => ih r hr level
    | element e => exact laidOut_element_append ha b ih
    | doctype d =>
      rw [laidOut, laidOut, List.append_assoc, lineEnded_append ha]
      rfl
    | _ => simp [laidOut, margined_append ha]

theorem lineEnded_lineEnded (text : List Char) : lineEnded (lineEnded text) = lineEnded text :=
  if_pos (lineBegins_lineEnded text)

/-- The start tag of a block element ends the line before it. -/
theorem opened_block (hb : Tag.isBlock e.tag) (text : List Char) :
    opened o e level text = opened o e level (lineEnded text) := by
  rw [opened, opened, if_pos hb, if_pos hb, lineEnded_lineEnded]

/-- A block element behind any text is laid out as it is alone, on a new line. -/
theorem laidOut_block (hb : Tag.isBlock e.tag) (text : List Char) :
    laidOut o level (.node (.element e) below) text =
      ⟨lineEnded text, none⟩ ++ laidOut o level (.node (.element e) below) [] := by
  rw [← laidOut_append (lineBegins_lineEnded text), List.append_nil]
  by_cases hv : Tag.isVoid e.tag
  · simp only [laidOut_void hv, ← opened_block hb text]
  by_cases hl : Tag.isLiteral e.tag
  · simp only [laidOut_literal hv hl, ← opened_block hb text]
  · simp only [laidOut_element hv hl, ← opened_block hb text]

/-! ## The tags of a block -/

theorem prefix_laidOutAll (hf : (laidOutAll o level rs text).fault = none) :
    text <+: (laidOutAll o level rs text).text := by
  obtain ⟨spaced, heq, -⟩ := spread_laidOutAll rs text (fun r _ => spread_laidOut r level) hf
  exact ⟨_, heq.symm⟩

theorem prefix_closed (o : LayoutOptions) (e : Element) (level : Nat) (text : List Char) :
    text <+: closed o e level text := by
  obtain ⟨spaced, heq, -⟩ := spread_closed o e level text
  exact ⟨_, heq.symm⟩

/-- An element that is not void ends with its end tag, behind a text that begins with its start
tag. -/
theorem exists_closed (hv : ¬ Tag.isVoid e.tag)
    (hf : (laidOut o level (.node (.element e) below) text).fault = none) :
    ∃ inner, opened o e level text <+: inner ∧
      (laidOut o level (.node (.element e) below) text).text = closed o e level inner := by
  by_cases hl : Tag.isLiteral e.tag
  · simp only [laidOut_literal hv hl] at hf ⊢
    obtain ⟨hinner, -⟩ := Passage.fault_andThen hf
    rw [Passage.andThen_none hinner]
    exact ⟨_, List.prefix_append _ _, rfl⟩
  · simp only [laidOut_element hv hl] at hf ⊢
    obtain ⟨hinner, -⟩ := Passage.fault_andThen hf
    rw [Passage.andThen_none hinner]
    exact ⟨_, prefix_laidOutAll hinner, rfl⟩

/-- A layout of an element begins with its start tag. -/
theorem opened_prefix (hf : (laidOut o level (.node (.element e) below) text).fault = none) :
    opened o e level text <+: (laidOut o level (.node (.element e) below) text).text := by
  by_cases hv : Tag.isVoid e.tag
  · rw [laidOut_void hv]
  · obtain ⟨inner, hinner, heq⟩ := exists_closed hv hf
    rw [heq]
    exact hinner.trans (prefix_closed o e level inner)

theorem opened_block_nil (hb : Tag.isBlock e.tag) :
    opened o e level [] = margin o level ++ e.bareMarkup ++ ['\n'] := by
  rw [opened, if_pos hb]
  rfl

theorem exists_lineEnded (h : text ≠ []) : ∃ inner, lineEnded text = inner ++ ['\n'] := by
  rcases List.eq_nil_or_concat text with rfl | ⟨init, c, rfl⟩
  · exact absurd rfl h
  rw [List.concat_eq_append, lineEnded, lineBegins_append_singleton]
  split
  · next hc => exact ⟨init, by rw [beq_iff_eq.mp hc]⟩
  · exact ⟨init ++ [c], rfl⟩

/-- The end tag of a block element begins a line at the margin of its start tag. -/
theorem exists_block_end (hb : Tag.isBlock e.tag) (hv : ¬ Tag.isVoid e.tag)
    (hf : (laidOut o level (.node (.element e) below) text).fault = none) :
    ∃ inner, (laidOut o level (.node (.element e) below) text).text =
      inner ++ ['\n'] ++ margin o level ++ ('<' :: '/' :: e.name.toList ++ ['>']) := by
  obtain ⟨inner, hinner, heq⟩ := exists_closed hv hf
  have hne : inner ≠ [] := by
    rintro rfl
    rw [List.prefix_nil, opened, if_pos hb] at hinner
    exact absurd hinner (List.append_ne_nil_of_right_ne_nil _ (List.cons_ne_nil _ _))
  obtain ⟨start, hstart⟩ := exists_lineEnded hne
  refine ⟨start, ?_⟩
  rw [heq, closed, if_pos hb, hstart]

/-! ## Levels -/

namespace Tree

variable {t : Tree} {kids : NodeId → List NodeId} {id c x : NodeId}

/-- The elements at and below `top` that `x` stands in, without `x` itself. -/
def elementsAbove (t : Tree) (top x : NodeId) : List NodeId :=
  (t.rose top).toList.filter fun a => t.isElement a && a != x && (t.rose a).toList.contains x

theorem isElement_eq (t : Tree) (id : NodeId) : t.isElement id = (t.contentAt id).isElement := by
  rw [isElement, contentAt]
  cases t.content? id <;> rfl

namespace Linked

theorem mem_elementsAbove (h : Linked t kids) {top a : NodeId} :
    a ∈ t.elementsAbove top x ↔ t.StrictlyAbove top a x ∧ t.isElement a := by
  rw [elementsAbove, List.mem_filter, h.mem_rose]
  simp only [Bool.and_eq_true, bne_iff_ne, List.contains_iff_mem, h.mem_rose]
  rw [StrictlyAbove]
  tauto

theorem elementsAbove_self (h : Linked t kids) (x : NodeId) : t.elementsAbove x x = [] := by
  refine List.eq_nil_iff_forall_not_mem.mpr fun a ha => ?_
  exact h.not_strictlyAbove_self (h.mem_elementsAbove.mp ha).1

/-- From a child on there is one element less above a node, if its parent is one. -/
theorem length_elementsAbove (h : Linked t kids) (hc : c ∈ t.children id)
    (hx : t.AtOrBelow c x) : (t.elementsAbove id x).length =
      (if t.isElement id then 1 else 0) + (t.elementsAbove c x).length := by
  have hnodup : ∀ top, (t.elementsAbove top x).Nodup := fun top => (h.nodup_rose top).filter _
  have hnot : id ∉ t.elementsAbove c x := fun hid =>
    h.not_atOrBelow_child hc (h.mem_elementsAbove.mp hid).1.1
  have hmem : ∀ a, a ∈ t.elementsAbove id x ↔
      a ∈ (if t.isElement id then [id] else []) ++ t.elementsAbove c x := by
    intro a
    rw [List.mem_append, h.mem_elementsAbove, h.mem_elementsAbove, h.strictlyAbove_child hc hx]
    split
    · next he =>
      rw [List.mem_singleton]
      refine ⟨fun ha => ha.1.imp_right fun hs => ⟨hs, ha.2⟩, ?_⟩
      rintro (rfl | ⟨hs, ha⟩)
      · exact ⟨.inl rfl, he⟩
      · exact ⟨.inr hs, ha⟩
    · next he =>
      refine ⟨?_, ?_⟩
      · rintro ⟨rfl | hs, ha⟩
        · exact absurd ha he
        · exact .inr ⟨hs, ha⟩
      · rintro (hs | ⟨hs, ha⟩)
        · cases hs
        · exact ⟨.inr hs, ha⟩
  have hright : ((if t.isElement id then [id] else []) ++ t.elementsAbove c x).Nodup := by
    split
    · exact List.nodup_cons.mpr ⟨hnot, hnodup c⟩
    · exact hnodup c
  rw [((List.perm_ext_iff_of_nodup (hnodup id) hright).mpr hmem).length_eq, List.length_append]
  split <;> rfl

end Linked

end Tree

/-! ## Down to a block -/

/-- A text holds the layout of a tree at this level, from the beginning of a line on. -/
structure StandsIn (o : LayoutOptions) (level : Nat) (r : Rose Content) (text : List Char) :
    Prop where
  fault : (laidOut o level r []).fault = none
  place : ∃ before after, lineBegins before ∧
    text = before ++ (laidOut o level r []).text ++ after

theorem StandsIn.mono (h : StandsIn o level r text) (hle : text <+: text') :
    StandsIn o level r text' := by
  obtain ⟨hfault, before, after, hbefore, rfl⟩ := h
  obtain ⟨more, rfl⟩ := hle
  exact ⟨hfault, before, after ++ more, hbefore, by rw [List.append_assoc _ after]⟩

/-- What stands in the layout of one of some trees, behind whatever text, stands in the layout of
them all. -/
theorem StandsIn.of_mem {level' : Nat} {r' : Rose Content} (hr : r ∈ rs)
    (h : ∀ text, (laidOut o level r text).fault = none →
      StandsIn o level' r' (laidOut o level r text).text)
    (hf : (laidOutAll o level rs text).fault = none) :
    StandsIn o level' r' (laidOutAll o level rs text).text := by
  induction rs generalizing text with
  | nil => cases hr
  | cons s rest ih =>
    obtain ⟨hfirst, hrest⟩ := Passage.fault_andThen hf
    rw [laidOutAll, Passage.andThen_none hfirst]
    rcases List.mem_cons.mp hr with rfl | hr
    · exact (h text hfirst).mono (prefix_laidOutAll hrest)
    · exact ih hr hrest

theorem standsIn_block (hb : Tag.isBlock e.tag)
    (hf : (laidOut o level (.node (.element e) below) text).fault = none) :
    StandsIn o level (.node (.element e) below)
      (laidOut o level (.node (.element e) below) text).text := by
  rw [laidOut_block hb, Passage.mk_none_append] at hf ⊢
  exact ⟨hf, _, [], lineBegins_lineEnded text, (List.append_nil _).symm⟩

namespace Tree

variable {t : Tree} {kids : NodeId → List NodeId} {id x : NodeId}

/-- A layout holds the layout of each block element that it goes down to, by induction on the
tree. -/
theorem Linked.standsIn_laidOut (h : Linked t kids) (hc : t.contentAt x = .element e)
    (hb : Tag.isBlock e.tag) (hx : t.AtOrBelow id x)
    (hopen : ∀ a, t.StrictlyAbove id a x →
      ¬ (t.contentAt a).isLeaf ∧ ¬ (t.contentAt a).isLiteral)
    (hf : (laidOut o level (t.shape id) text).fault = none) :
    StandsIn o (level + (t.elementsAbove id x).length) (t.shape x)
      (laidOut o level (t.shape id) text).text := by
  induction id using h.induction generalizing level text with
  | step id ih =>
    rcases hx.eq_or_child with rfl | ⟨c, hcid, hcx⟩
    · rw [h.elementsAbove_self]
      rw [h.shape_eq, hc] at hf ⊢
      exact standsIn_block hb hf
    obtain ⟨hleaf, hliteral⟩ := hopen id ((h.strictlyAbove_child hcid hcx).mpr (.inl rfl))
    have hbelow : ∀ {level text},
        (laidOutAll o level ((t.children id).map t.shape) text).fault = none →
          StandsIn o (level + (t.elementsAbove c x).length) (t.shape x)
            (laidOutAll o level ((t.children id).map t.shape) text).text := fun hf =>
      StandsIn.of_mem (List.mem_map_of_mem hcid) (fun text hf => ih c hcid hcx (fun a ha =>
        hopen a ((h.strictlyAbove_child hcid hcx).mpr (.inr ha))) hf) hf
    rw [h.length_elementsAbove hcid hcx]
    have helement := t.isElement_eq id
    rw [h.shape_eq id] at hf ⊢
    cases hid : t.contentAt id with
    | document =>
      rw [hid] at hf helement
      rw [if_neg (show ¬ t.isElement id = true from Bool.eq_false_iff.mp helement), Nat.zero_add]
      exact hbelow hf
    | element f =>
      rw [hid] at hf hleaf hliteral helement
      simp only [laidOut_element hleaf hliteral] at hf ⊢
      obtain ⟨hinner, -⟩ := Passage.fault_andThen hf
      rw [if_pos (show t.isElement id = true from helement), ← Nat.add_assoc,
        Passage.andThen_none hinner]
      exact (hbelow hinner).mono (prefix_closed o f level _)
    | _ => rw [hid] at hleaf; exact absurd rfl hleaf

end Tree

/-! ## Whole layouts -/

section

variable {level' : Nat}

theorem margin_congr (h : o.width = o'.width) (hlevel : level ≡ level' [MOD UInt64.size]) :
    margin o level = margin o' level' := by
  rw [margin, margin, h, hlevel.mul_right]

theorem opened_congr (h : o.width = o'.width) (hlevel : level ≡ level' [MOD UInt64.size]) :
    opened o e level = opened o' e level' := by
  funext text
  simp only [opened, margined, margin_congr h hlevel]

theorem closed_congr (h : o.width = o'.width) (hlevel : level ≡ level' [MOD UInt64.size]) :
    closed o e level = closed o' e level' := by
  funext text
  simp only [closed, margined, margin_congr h hlevel]

theorem laidOutAll_congr : ∀ {rs : List (Rose Content)},
    (∀ r ∈ rs, laidOut o level r = laidOut o' level' r) →
      laidOutAll o level rs = laidOutAll o' level' rs
  | [], _ => by
    funext text
    rw [laidOutAll, laidOutAll]
  | r :: rest, h => by
    funext text
    rw [laidOutAll, laidOutAll, h r List.mem_cons_self,
      laidOutAll_congr fun x hx => h x (List.mem_cons_of_mem r hx)]

/-- Of the options, the layout of a tree at a level depends on the width only, and of the level on
what a word holds of it. -/
theorem laidOut_congr (h : o.width = o'.width) (r : Rose Content)
    (hlevel : level ≡ level' [MOD UInt64.size]) : laidOut o level r = laidOut o' level' r := by
  induction r generalizing level level' with
  | node content below ih =>
    have hsame : laidOutAll o level below = laidOutAll o' level' below :=
      laidOutAll_congr fun r hr => ih r hr hlevel
    have hdeeper : laidOutAll o (level + 1) below = laidOutAll o' (level' + 1) below :=
      laidOutAll_congr fun r hr => ih r hr (hlevel.add_right 1)
    funext text
    cases content <;> simp only [laidOut, hsame, hdeeper, opened_congr h hlevel,
      closed_congr h hlevel, margined, margin_congr h hlevel]

end

/-- A whole layout without a newline of its own at the end. -/
theorem layoutOf_plain (level width : UInt64) (r : Rose Content) :
    layoutOf { level, width } r = laidOut { level, width } level.toNat r [] := by
  rw [layoutOf]
  cases hf : (laidOut { level, width } level.toNat r []).fault with
  | none =>
    rw [Passage.andThen_none hf]
    exact (congrArg (Passage.mk _) hf).symm
  | some f => rw [Passage.andThen_some hf]

/-- The text of a layout continues that of the tree at its top. -/
theorem prefix_layoutOf (hf : (layoutOf o r).fault = none) :
    (laidOut o o.level.toNat r []).fault = none ∧
      (laidOut o o.level.toNat r []).text <+: (layoutOf o r).text := by
  obtain ⟨hlaid, -⟩ := Passage.fault_andThen hf
  refine ⟨hlaid, ?_⟩
  rw [layoutOf, Passage.andThen_none hlaid]
  dsimp only
  split
  · rw [lineEnded]
    split
    · exact List.prefix_refl _
    · exact List.prefix_append _ _
  · exact List.prefix_refl _

/-- A layout that goes down to a block element holds the layout of this element alone, at the
level of the layout and one more for each element that it stands in. It begins where a line
begins, with the margin of the level, the start tag and the end of the line. Unless the element
is void, it ends with its end tag, on a new line and at the same margin. The margin has
`level * width` spaces, as long as a word can hold this number. -/
theorem layout_block {t : Tree} (ht : t.Reachable) (o : LayoutOptions) {id x : NodeId}
    (hf : (t.layout o id).fault = none) (hx : t.AtOrBelow id x)
    (hopen : ∀ a, t.StrictlyAbove id a x →
      ¬ (t.contentAt a).isLeaf ∧ ¬ (t.contentAt a).isLiteral)
    (hc : t.content? x = some (.element e)) (hb : Tag.isBlock e.tag)
    (hlevel : level = o.level.toNat + (t.elementsAbove id x).length) :
    (t.layout { level := .ofNat level, width := o.width } x).fault = none ∧
    (∃ before after, lineBegins before ∧ (t.layout o id).text.toList =
      before ++ (t.layout { level := .ofNat level, width := o.width } x).text.toList ++ after) ∧
    (∃ rest, (t.layout { level := .ofNat level, width := o.width } x).text.toList =
      margin o level ++ e.bareMarkup ++ ['\n'] ++ rest) ∧
    (¬ Tag.isVoid e.tag → ∃ inner,
      (t.layout { level := .ofNat level, width := o.width } x).text.toList =
        inner ++ ['\n'] ++ margin o level ++ ('<' :: '/' :: e.name.toList ++ ['>'])) ∧
    (level * o.width.toNat < UInt64.size →
      margin o level = List.replicate (level * o.width.toNat) ' ') := by
  have h := ht.linked
  have hcx : t.contentAt x = .element e := Tree.contentAt_of_content? hc
  have hwhole : (t.layout o id).text.toList = (layoutOf o (t.shape id)).text := by
    rw [Output.toList_text, ← h.layout_passage, Output.passage]
  let alone : LayoutOptions := { level := .ofNat level, width := o.width }
  have hword : alone.level.toNat ≡ level [MOD UInt64.size] := by
    rw [UInt64.toNat_ofNat']
    exact Nat.mod_modEq level _
  have hwidth : alone.width = o.width := rfl
  have hpassage : (t.layout alone x).passage = laidOut o level (t.shape x) [] := by
    rw [h.layout_passage, layoutOf_plain, laidOut_congr hwidth _ hword]
  have halone : (t.layout alone x).text.toList =
      (laidOut o level (t.shape x) []).text := by
    rw [Output.toList_text, ← hpassage, Output.passage]
  obtain ⟨hlaid, hprefix⟩ := prefix_layoutOf (o := o) (r := t.shape id)
    (by rw [← h.layout_passage]; exact hf)
  obtain ⟨hfault, hplace⟩ := (h.standsIn_laidOut hcx hb hx hopen hlaid).mono hprefix
  rw [← hlevel] at hfault hplace
  refine ⟨?_, ?_, ?_, fun hv => ?_, margin_of_lt⟩
  · rw [← hfault, ← hpassage, Output.passage]
  · rw [hwhole, halone]
    exact hplace
  · rw [halone]
    rw [h.shape_eq, hcx] at hfault ⊢
    obtain ⟨rest, hrest⟩ := opened_prefix hfault
    exact ⟨rest, by rw [← hrest, opened_block_nil hb]⟩
  · rw [halone]
    rw [h.shape_eq, hcx] at hfault ⊢
    exact exists_block_end hb hv hfault

/-- A page with a list in the middle of a line, in bold. -/
def boldList : Tree :=
  (Tree.single .document).run
    [.addChild 0 (.text "Items:"), .addChild 0 (.element (.named "b" [])),
      .addChild 2 (.text "two"), .addChild 2 (.element (.named "ul" [])),
      .addChild 4 (.element (.named "li" [])), .addChild 5 (.text "x")]

/-- The list begins on a line of its own, one level below the bold element. -/
theorem layout_boldList : boldList.Reachable ∧
    (boldList.layout { level := 1, trailingNewline := true } Tree.root).fault = none ∧
    (boldList.elementsAbove Tree.root 4).length = 1 ∧
    (boldList.layout { level := 2 } 4).text =
      "    <ul>\n      <li>\n        x\n      </li>\n    </ul>" ∧
    ∃ before after, lineBegins before ∧
      (boldList.layout { level := 1, trailingNewline := true } Tree.root).text.toList =
        before ++ "    <ul>\n      <li>\n        x\n      </li>\n    </ul>".toList ++ after := by
  have ht : boldList.Reachable := ⟨_, _, rfl⟩
  have hf : (boldList.layout { level := 1, trailingNewline := true } Tree.root).fault = none := by
    decide +kernel
  have hx : boldList.AtOrBelow Tree.root 4 := ht.linked.mem_rose.mp (by decide +kernel)
  have habove : ∀ a ∈ (boldList.rose Tree.root).toList, 4 ∈ (boldList.rose a).toList → a ≠ 4 →
      ¬ (boldList.contentAt a).isLeaf ∧ ¬ (boldList.contentAt a).isLiteral := by decide +kernel
  have hlevel : (boldList.elementsAbove Tree.root 4).length = 1 := by decide +kernel
  have htext : (boldList.layout { level := 2 } 4).text =
      "    <ul>\n      <li>\n        x\n      </li>\n    </ul>" := by decide +kernel
  have htwo : 2 = 1 + (boldList.elementsAbove Tree.root 4).length := by rw [hlevel]
  obtain ⟨-, hplace, -⟩ := layout_block (e := .named "ul" []) ht
    { level := 1, trailingNewline := true } hf hx
    (fun a ha => habove a (ht.linked.mem_rose.mpr ha.1) (ht.linked.mem_rose.mpr ha.2.1) ha.2.2)
    (by decide +kernel) (by decide) htwo
  refine ⟨ht, hf, hlevel, htext, ?_⟩
  rw [← htext]
  exact hplace

end Hypertext
