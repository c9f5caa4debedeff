import Hypertext.Proofs.Writer.Outcome
import Hypertext.Proofs.Writer.Unambiguous

/-!
# Newlines that readers drop

Readers drop a newline right behind some start tags. So that a newline at the beginning of the
content comes back, the writer of markup puts one more in front of it; it does so by the first child
of the element, where that is a text. `Tree.contentMarkup` is what the children are written as, and
`Tree.behindTag` what stands between the tags.

* `Linked.exists_turns`: the way through a tree has the way through each of its nodes as one piece.
* `markup_behindTag`: what stands between the tags. Dropping a newline gives the content back, unless
  it begins with one that is not at the beginning of a text as the first child.
-/

namespace Hypertext

/-- A text as a reader takes it behind these start tags: without a newline at its beginning. -/
def withoutNewline : List Char → List Char
  | '\n' :: text => text
  | text => text

theorem withoutNewline_of_head? {text : List Char} (h : text.head? ≠ some '\n') :
    withoutNewline text = text := by
  unfold withoutNewline
  split
  · exact absurd rfl h
  · rfl

theorem withoutNewline_ne {text : List Char} (h : text.head? = some '\n') :
    withoutNewline text ≠ text := by
  obtain ⟨rest, rfl⟩ := List.head?_eq_some_iff.mp h
  exact fun heq => absurd (congrArg List.length heq) (by simp [withoutNewline])

/-- The elements behind whose start tags readers drop a newline are neither void nor literal, and
have an end tag. -/
theorem ordinary_of_dropsFirstNewline {tag : Option Tag} (h : dropsFirstNewline tag) :
    Tag.isVoid tag = false ∧ Tag.isLiteral tag = false ∧ tag ≠ some .plaintext := by
  simp only [dropsFirstNewline, Bool.or_eq_true, beq_iff_eq] at h
  rcases h with (rfl | rfl) | rfl <;> decide

namespace Tree

/-- What the children of a node are written as, in order. -/
def contentMarkup (t : Tree) (x : NodeId) : List Char :=
  (t.children x).flatMap fun c => (t.markup c).text.toList

/-- What stands behind the start tag of such an element: its content, with one more newline in front
if its first child is a text that begins with one. -/
def behindTag (t : Tree) (x : NodeId) : List Char :=
  (if Markup.startsWithNewline t x then ['\n'] else []) ++ t.contentMarkup x

variable {t : Tree} {kids : NodeId → List NodeId} {id x : NodeId} {literal : Bool} {e : Element}

namespace Linked

/-- The way through a tree has the way through each node that it leads into as one piece, by
induction on the tree. -/
theorem exists_turns (h : Linked t kids) (hx : x ∈ entered (t.turns id literal)) :
    ∃ literal', t.turns x literal' <:+: t.turns id literal := by
  induction id using h.induction generalizing literal with
  | step id ih =>
    have hturns := h.turns_eq id literal
    rw [hturns, entered_enter] at hx
    rcases List.mem_cons.mp hx with rfl | hx
    · exact ⟨literal, List.infix_refl _⟩
    by_cases hleaf : (t.contentAt id).isLeaf
    · rw [if_pos hleaf] at hx
      exact absurd hx List.not_mem_nil
    rw [if_neg hleaf, entered_append, entered_leave, entered_nil, List.append_nil] at hx
    rw [if_neg hleaf] at hturns
    obtain ⟨c, hc, hxc⟩ : ∃ c ∈ t.children id,
        x ∈ entered (t.turns c (t.contentAt id).isLiteral) := by
      rwa [entered, List.filterMap_flatMap, List.mem_flatMap] at hx
    obtain ⟨literal', hpiece⟩ := ih c hc hxc
    have hbelow : t.turns c (t.contentAt id).isLiteral <:+:
        (t.children id).flatMap (t.turns · (t.contentAt id).isLiteral) := by
      rw [List.flatMap_def]
      exact List.infix_of_mem_flatten (List.mem_map_of_mem hc)
    refine ⟨literal', hpiece.trans (hbelow.trans ?_)⟩
    rw [hturns]
    exact List.infix_cons (List.prefix_append _ _).isInfix

theorem toList_markup (h : Linked t kids) (id : NodeId) :
    (t.markup id).text.toList = (markupOf false (t.shape id)).text :=
  (Output.toList_text _).trans (congrArg Passage.text (h.markup_passage id))

/-- The markup of nodes in order, if there is no fault in it. -/
theorem markupOfAll_shape (h : Linked t kids) {ids : List NodeId}
    (hf : (markupOfAll false (ids.map t.shape)).fault = none) :
    (∀ c ∈ ids, (t.markup c).fault = none) ∧
      (markupOfAll false (ids.map t.shape)).text =
        ids.flatMap fun c => (t.markup c).text.toList := by
  rw [fault_markupOfAll, List.findSome?_eq_none_iff] at hf
  refine ⟨fun c hc => ?_, ?_⟩
  · rw [h.fault_markup]
    exact hf _ (List.mem_map_of_mem hc)
  · rw [markupOfAll_eq hf, List.flatMap_map]
    exact List.flatMap_congr fun c _ => (h.toList_markup c).symm

/-- Such an element is written as its start tag, what stands behind that, and its end tag. -/
theorem written_behindTag (h : Linked t kids) (hc : t.contentAt x = .element e)
    (htag : dropsFirstNewline e.tag)
    (hf : (t.passageAlong (t.turns x literal)).fault = none) :
    (∀ c ∈ t.children x, (t.markup c).fault = none) ∧
      (t.turns x literal).flatMap t.written =
        e.startMarkup ++ ['>'] ++ t.behindTag x ++ ('<' :: '/' :: e.name.toList ++ ['>']) := by
  obtain ⟨hv, hl, hplain⟩ := ordinary_of_dropsFirstNewline htag
  have hvoid : ¬ Tag.isVoid e.tag := Bool.eq_false_iff.mp hv
  have htext := text_passageAlong hf
  rw [h.passage_turns, h.shape_eq, hc, fault_markupOf_element hvoid, hl] at hf
  obtain ⟨hchildren, hcontent⟩ := h.markupOfAll_shape hf
  refine ⟨hchildren, ?_⟩
  rw [← htext, h.passage_turns, h.shape_eq, hc, markupOf, if_neg hvoid, hl,
    Passage.append_of_fault_none hf, hcontent, Element.endMarkup, if_neg hplain,
    Element.spareNewline, htag, Bool.true_and, ← Markup.startsWithNewline_eq h, behindTag,
    contentMarkup]
  simp

/-- Where the first child is a text that begins with a newline, so does the content. -/
theorem head?_contentMarkup (h : Linked t kids) (hx : Markup.startsWithNewline t x) :
    (t.contentMarkup x).head? = some '\n' := by
  rw [Markup.startsWithNewline, h.first?_eq] at hx
  rw [contentMarkup, h.children_eq]
  cases hkids : kids x with
  | nil =>
    rw [hkids] at hx
    cases hx
  | cons c rest =>
    rw [hkids, List.head?_cons, Option.bind_some] at hx
    split at hx
    · next data hc =>
      have hmarkup : (t.markup c).text.toList = escaped data := by
        rw [h.toList_markup, h.shape_of_content? hc]
        rfl
      rw [List.flatMap_cons, hmarkup, List.head?_append,
        (head?_escaped_eq_newline data).mpr (beq_iff_eq.mp hx)]
      rfl
    · cases hx

end Linked

/-- A newline at the beginning of the content has another one in front of it just if the first child
is a text that begins with it. -/
theorem Linked.behindTag_eq_iff (h : Linked t kids) (x : NodeId) :
    t.behindTag x = (if (t.contentMarkup x).head? = some '\n' then ['\n'] else []) ++
        t.contentMarkup x ↔
      ((t.contentMarkup x).head? = some '\n' → Markup.startsWithNewline t x) := by
  rw [behindTag, List.append_left_inj]
  by_cases hx : Markup.startsWithNewline t x
  · simp [hx, h.head?_contentMarkup hx]
  · simp [hx]

/-- Dropping a newline gives the content back, unless the content begins with one that has no other
in front of it. -/
theorem withoutNewline_behindTag (t : Tree) (x : NodeId) :
    withoutNewline (t.behindTag x) = t.contentMarkup x ↔
      ((t.contentMarkup x).head? = some '\n' → Markup.startsWithNewline t x) := by
  rw [behindTag]
  by_cases hx : Markup.startsWithNewline t x
  · rw [if_pos hx]
    exact ⟨fun _ _ => hx, fun _ => rfl⟩
  · rw [if_neg hx, List.nil_append]
    refine ⟨fun heq hhead => absurd heq (withoutNewline_ne hhead), fun hhead => ?_⟩
    exact withoutNewline_of_head? fun hnewline => hx (hhead hnewline)

end Tree

/-- An element behind whose start tag readers drop a newline is written, where there is markup, as
its start tag, its content and its end tag, and in front of the content comes a newline if the first
child is a text that begins with one; then so does the content. Thus a newline at the beginning of
the content is written twice, and the content comes back when one is dropped, just if that newline
begins a text that is the first child. A newline that stands elsewhere is lost. -/
theorem markup_behindTag {t : Tree} (ht : t.Reachable) {id x : NodeId} {e : Element}
    (hf : (t.markup id).fault = none) (hx : x ∈ t.visited id)
    (hc : t.content? x = some (.element e)) (htag : dropsFirstNewline e.tag) :
    let content := t.contentMarkup x
    let doubled := Markup.startsWithNewline t x
    let between := (if doubled then ['\n'] else []) ++ content
    (∀ c ∈ t.children x, (t.markup c).fault = none) ∧
    (∃ before literal after, t.turns id = before ++ t.turns x literal ++ after ∧
      (t.markup id).text.toList = before.flatMap t.written ++ (e.startMarkup ++ ['>']) ++
        between ++ ('<' :: '/' :: e.name.toList ++ ['>']) ++ after.flatMap t.written) ∧
    (doubled → content.head? = some '\n') ∧
    (between = (if content.head? = some '\n' then ['\n'] else []) ++ content ↔
      (content.head? = some '\n' → doubled)) ∧
    (withoutNewline between = content ↔ (content.head? = some '\n' → doubled)) := by
  intro content doubled between
  have h := ht.linked
  have hcx : t.contentAt x = .element e := Tree.contentAt_of_content? hc
  obtain ⟨literal, before, after, hturns⟩ := h.exists_turns hx
  rw [h.fault_markup, ← h.passage_turns] at hf
  have htext := Tree.text_passageAlong hf
  have hpiece : (t.passageAlong (t.turns x literal)).fault = none := by
    rw [← hturns, Tree.passageAlong_append, Tree.passageAlong_append, Passage.fault_append,
      Passage.fault_append, Option.or_eq_none_iff, Option.or_eq_none_iff] at hf
    exact hf.1.2
  obtain ⟨hchildren, hwritten⟩ := h.written_behindTag hcx htag hpiece
  refine ⟨hchildren, ⟨before, literal, after, hturns.symm, ?_⟩, h.head?_contentMarkup,
    h.behindTag_eq_iff x, t.withoutNewline_behindTag x⟩
  rw [h.toList_markup, ← h.passage_turns, htext, ← hturns, List.flatMap_append,
    List.flatMap_append, hwritten]
  simp only [List.append_assoc]
  rfl

/-- A listing whose first child begins with a newline. -/
def codeListing : Tree :=
  (Tree.single .document).run
    [.addChild 0 (.element (.named "pre" [])), .addChild 1 (.text "\ncode"),
      .addChild 1 (.raw "<i/>")]

/-- Its newline is written twice, and comes back. -/
theorem markup_codeListing : codeListing.Reachable ∧
    (codeListing.markup Tree.root).fault = none ∧ 1 ∈ codeListing.visited Tree.root ∧
    codeListing.content? 1 = some (.element (.named "pre" [])) ∧
    dropsFirstNewline (Element.named "pre" []).tag ∧
    String.ofList (codeListing.contentMarkup 1) = "\ncode<i/>" ∧
    (∃ before after, (codeListing.markup Tree.root).text.toList =
      before ++ "<pre>\n\ncode<i/></pre>".toList ++ after) ∧
    withoutNewline (codeListing.behindTag 1) = codeListing.contentMarkup 1 := by
  have ht : codeListing.Reachable := ⟨_, _, rfl⟩
  have hf : (codeListing.markup Tree.root).fault = none := by decide +kernel
  have hx : 1 ∈ codeListing.visited Tree.root := by decide +kernel
  have hc : codeListing.content? 1 = some (.element (.named "pre" [])) := by
    decide +kernel
  have htag : dropsFirstNewline (Element.named "pre" []).tag := by decide
  obtain ⟨-, ⟨before, literal, after, -, htext⟩, -, -, hback⟩ := markup_behindTag ht hf hx hc htag
  refine ⟨ht, hf, hx, hc, htag, by decide +kernel,
    ⟨before.flatMap codeListing.written, after.flatMap codeListing.written, htext.trans ?_⟩,
    hback.mpr fun _ => by decide +kernel⟩
  have hpiece : (Element.named "pre" []).startMarkup ++ ['>'] ++ codeListing.behindTag 1 ++
      "</pre>".toList = "<pre>\n\ncode<i/></pre>".toList := by decide +kernel
  rw [← hpiece]
  simp only [List.append_assoc]
  rfl

/-- A listing with a raw node that is empty in front of a text that begins with a newline. -/
def codeBehindNothing : Tree :=
  (Tree.single .document).run
    [.addChild 0 (.element (.named "pre" [])), .addChild 1 (.raw ""), .addChild 1 (.text "\ncode")]

/-- Its content begins with a newline that is written once, so that readers drop it. -/
theorem markup_codeBehindNothing : codeBehindNothing.Reachable ∧
    (codeBehindNothing.markup Tree.root).fault = none ∧
    1 ∈ codeBehindNothing.visited Tree.root ∧
    codeBehindNothing.content? 1 = some (.element (.named "pre" [])) ∧
    dropsFirstNewline (Element.named "pre" []).tag ∧
    codeBehindNothing.contentMarkup 1 = "\ncode".toList ∧
    (codeBehindNothing.markup Tree.root).text = "<pre>\ncode</pre>" ∧
    ¬ (∃ before after, (codeBehindNothing.markup Tree.root).text.toList =
      before ++ "<pre>".toList ++ '\n' :: codeBehindNothing.contentMarkup 1 ++ "</pre>".toList ++
        after) ∧
    withoutNewline "\ncode".toList ≠ codeBehindNothing.contentMarkup 1 := by
  have hnot : ¬ ("<pre>".toList ++ '\n' :: codeBehindNothing.contentMarkup 1 ++ "</pre>".toList) <:+:
      (codeBehindNothing.markup Tree.root).text.toList := by decide +kernel
  refine ⟨⟨_, _, rfl⟩, by decide +kernel, by decide +kernel, by decide +kernel, by decide,
    by decide +kernel, by decide +kernel, ?_, by decide +kernel⟩
  rintro ⟨before, after, htext⟩
  refine hnot ⟨before, after, ?_⟩
  rw [htext]
  simp only [List.append_assoc]

end Hypertext
