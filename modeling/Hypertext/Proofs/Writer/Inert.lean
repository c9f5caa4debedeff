import Hypertext.Proofs.Writer.Faults
import Hypertext.Proofs.Writer.Spacing

/-!
# Inert data

Texts and attribute values cannot make markup, nor unmake it. Two trees that are equal once their
data is blanked out (`Alike`) have the same delimiters in their markup, in the same order, and the
same brackets in their layouts; and either both of them can be written or neither, for the same
reason. Data that is written as it stands is not blanked out: raw nodes, comments, document types,
and texts directly in an element with literal content.

Each tree is compared with its own blanked form: `only_markupOf` for markup, and `only_laidOut`
for layouts, where the text so far may be another one on either side, for the data decides where
lines begin. `delimiters_eq_of_alike` compares two trees by way of that form.
-/

namespace Hypertext

/-! ## Data that is free to change -/

/-- An attribute without its value. -/
def Attribute.blanked (a : Attribute) : Attribute :=
  { a with value := "" }

/-- An element without the values of its attributes. -/
def Element.blanked (e : Element) : Element :=
  { e with attributes := e.attributes.map Attribute.blanked }

/-- A content without its data, unless that is written as it stands. -/
def Content.blanked (literal : Bool) : Content → Content
  | .element e => .element e.blanked
  | .text data => .text (if literal then data else "")
  | c => c

mutual

/-- A tree without its data, unless that is written as it stands. -/
def Rose.blanked (literal : Bool) : Rose Content → Rose Content
  | .node c below => .node (c.blanked literal) (Rose.blankedAll c.isLiteral below)

/-- Trees in order without their data. -/
def Rose.blankedAll (literal : Bool) : List (Rose Content) → List (Rose Content)
  | [] => []
  | r :: rest => Rose.blanked literal r :: Rose.blankedAll literal rest

end

/-- Two trees differ only in data that is not written as it stands. -/
def Alike (r r' : Rose Content) : Prop :=
  r.blanked false = r'.blanked false

@[simp] theorem Element.tag_blanked (e : Element) : e.blanked.tag = e.tag := rfl

@[simp] theorem Element.name_blanked (e : Element) : e.blanked.name = e.name := rfl

theorem isEmpty_blankedAll (literal : Bool) (rs : List (Rose Content)) :
    (Rose.blankedAll literal rs).isEmpty = rs.isEmpty := by
  cases rs <;> rfl

/-! ## Delimiters -/

/-- The brackets of tags. -/
def isBracket (c : Char) : Bool :=
  c == '<' || c == '>'

/-- The characters that delimit markup: brackets and the quotes around attribute values. -/
def isDelimiter (c : Char) : Bool :=
  isBracket c || c == '"'

/-- A passage with only some of its characters. -/
def Passage.only (keep : Char → Bool) (p : Passage) : Passage :=
  ⟨p.text.filter keep, p.fault⟩

section

variable {keep : Char → Bool}

theorem Passage.only_mk (text : List Char) :
    (⟨text, none⟩ : Passage).only keep = ⟨text.filter keep, none⟩ := rfl

theorem Passage.only_append (p q : Passage) : (p ++ q).only keep = p.only keep ++ q.only keep := by
  obtain ⟨text, _ | f⟩ := p
  · simp [only]
  · rfl

/-- Steps that agree on the characters kept, one after another. -/
theorem Passage.only_andThen {p q : Passage} {f g : List Char → Passage}
    (hpq : p.only keep = q.only keep) (hfg : ∀ {a b : List Char},
      a.filter keep = b.filter keep → (f a).only keep = (g b).only keep) :
    (p.andThen f).only keep = (q.andThen g).only keep := by
  obtain ⟨htext, hfault⟩ := Passage.mk.inj hpq
  cases hf : p.fault with
  | none =>
    rw [andThen_none hf, andThen_none (hfault ▸ hf)]
    exact hfg htext
  | some fault => rw [andThen_some hf, andThen_some (hfault ▸ hf), hpq]

/-- No delimiter is left in an escaped text. -/
theorem filter_escaped (hk : ∀ c, keep c → isDelimiter c) (data : String) :
    (escaped data).filter keep = [] := by
  refine List.filter_eq_nil_iff.mpr fun c hc hkeep => ?_
  have hd : isDelimiter c := hk c hkeep
  simp only [isDelimiter, isBracket, Bool.or_eq_true, beq_iff_eq] at hd
  rcases hd with (rfl | rfl) | rfl <;> exact not_mem_escaped (by decide) data hc

theorem keep_eq_false (hk : ∀ c, keep c → isDelimiter c) {c : Char} (hc : isDelimiter c = false) :
    keep c = false := by
  refine Bool.eq_false_iff.mpr fun h => ?_
  rw [hk c h] at hc
  cases hc

/-! ## Markup -/

/-- Attributes in order, if each of them keeps as much as without its value. -/
theorem filter_attributes {f : Attribute → List Char}
    (hf : ∀ a : Attribute, (f a.blanked).filter keep = (f a).filter keep) (as : List Attribute) :
    ((as.map Attribute.blanked).flatMap f).filter keep = (as.flatMap f).filter keep := by
  rw [List.flatMap_map, List.filter_flatMap, List.filter_flatMap]
  exact List.flatMap_congr fun a _ => hf a

theorem Attribute.filter_markup (hk : ∀ c, keep c → isDelimiter c) (a : Attribute) :
    a.blanked.markup.filter keep = a.markup.filter keep := by
  simp only [markup, blanked, List.filter_append, filter_escaped hk]

theorem Element.filter_startMarkup (hk : ∀ c, keep c → isDelimiter c) (e : Element) :
    e.blanked.startMarkup.filter keep = e.startMarkup.filter keep := by
  rw [startMarkup, startMarkup, name_blanked, List.filter_append, List.filter_append, blanked,
    filter_attributes (Attribute.filter_markup hk)]

theorem filter_spareNewline (hk : ∀ c, keep c → isDelimiter c) (e : Element)
    (below : List (Rose Content)) : (e.spareNewline below).filter keep = [] := by
  have hnewline := keep_eq_false hk (c := '\n') (by decide)
  rw [Element.spareNewline]
  split
  · rw [List.filter_cons_of_neg (by rw [hnewline]; exact Bool.false_ne_true), List.filter_nil]
  · rfl

theorem only_markupOfAll (literal : Bool) : ∀ rs : List (Rose Content),
    (∀ r ∈ rs, (markupOf literal r).only keep = (markupOf literal (r.blanked literal)).only keep) →
    (markupOfAll literal rs).only keep =
      (markupOfAll literal (Rose.blankedAll literal rs)).only keep
  | [], _ => rfl
  | r :: rest, h => by
    rw [Rose.blankedAll, markupOfAll, markupOfAll, Passage.only_append, Passage.only_append,
      h r List.mem_cons_self,
      only_markupOfAll literal rest fun x hx => h x (List.mem_cons_of_mem r hx)]

/-- A tree has the delimiters of its blanked form, by induction on the tree. -/
theorem only_markupOf (hk : ∀ c, keep c → isDelimiter c) (r : Rose Content) (literal : Bool) :
    (markupOf literal r).only keep = (markupOf literal (r.blanked literal)).only keep := by
  induction r generalizing literal with
  | node content below ih =>
    have hbelow : ∀ literal, (markupOfAll literal below).only keep =
        (markupOfAll literal (Rose.blankedAll literal below)).only keep :=
      fun literal => only_markupOfAll literal below fun r hr => ih r hr literal
    rw [Rose.blanked]
    cases content with
    | document => exact hbelow false
    | element e =>
      rw [Content.blanked, markupOf, markupOf, Passage.only_append, Passage.only_append,
        Passage.only_mk, Passage.only_mk, Element.filter_startMarkup hk, Element.tag_blanked]
      by_cases hv : Tag.isVoid e.tag
      · rw [if_pos hv, if_pos hv, isEmpty_blankedAll, Element.name_blanked]
      · simp only [if_neg hv, Passage.only_append, Passage.only_mk, hbelow, Content.isLiteral,
          List.filter_cons, filter_spareNewline hk]
        rfl
    | text data =>
      rw [Content.blanked, markupOf, markupOf]
      cases literal with
      | true => rfl
      | false => simp [Passage.only_mk, filter_escaped hk]
    | _ => rfl

/-! ## Layouts -/

variable {o : LayoutOptions} {level : Nat}

theorem isDelimiter_of_isBracket {c : Char} (h : isBracket c) : isDelimiter c := by
  rw [isDelimiter, h, Bool.true_or]

theorem filter_lineEnded (hk : ∀ c, keep c → isDelimiter c) (text : List Char) :
    (lineEnded text).filter keep = text.filter keep := by
  have hnewline := keep_eq_false hk (c := '\n') (by decide)
  rw [lineEnded]
  split
  · rfl
  · simp [hnewline]

theorem filter_margin (hk : ∀ c, keep c → isDelimiter c) (o : LayoutOptions) (level : Nat) :
    (margin o level).filter keep = [] := by
  have hspace := keep_eq_false hk (c := ' ') (by decide)
  simp [margin, hspace]

theorem filter_margined (hk : ∀ c, keep c → isDelimiter c) (text : List Char) :
    (margined o level text).filter keep = text.filter keep := by
  rw [margined]
  split
  · rw [List.filter_append, filter_margin hk, List.append_nil]
  · rfl

/-- An attribute has no brackets but those of its key. -/
theorem Attribute.filter_bareMarkup (hk : ∀ c, keep c → isBracket c) (a : Attribute) :
    a.bareMarkup.filter keep = (' ' :: a.key.toList).filter keep := by
  have hdelimiter : ∀ c, keep c → isDelimiter c := fun c hc => isDelimiter_of_isBracket (hk c hc)
  have hquote : keep '"' = false := Bool.eq_false_iff.mpr fun h => absurd (hk '"' h) (by decide)
  have hequals := keep_eq_false hdelimiter (c := '=') (by decide)
  rw [bareMarkup]
  split
  · rw [List.append_nil]
  · simp [List.filter_cons, filter_escaped hdelimiter, hquote, hequals]

theorem Element.filter_bareMarkup (hk : ∀ c, keep c → isBracket c) (e : Element) :
    e.blanked.bareMarkup.filter keep = e.bareMarkup.filter keep := by
  have hattribute : ∀ a : Attribute,
      a.blanked.bareMarkup.filter keep = a.bareMarkup.filter keep := fun a => by
    rw [Attribute.filter_bareMarkup hk, Attribute.filter_bareMarkup hk, Attribute.blanked]
  simp only [bareMarkup, List.filter_append, blanked, filter_attributes hattribute]

/-- What a start tag adds to a text has the same brackets whatever the text and the data. -/
theorem filter_opened (hk : ∀ c, keep c → isBracket c) (e : Element) {a b : List Char}
    (hab : a.filter keep = b.filter keep) :
    (opened o e level a).filter keep = (opened o e.blanked level b).filter keep := by
  have hdelimiter : ∀ c, keep c → isDelimiter c := fun c hc => isDelimiter_of_isBracket (hk c hc)
  rw [opened, opened, Element.tag_blanked]
  split
  · simp only [List.filter_append, filter_margined hdelimiter, filter_lineEnded hdelimiter, hab,
      Element.filter_bareMarkup hk]
  · simp only [List.filter_append, filter_margined hdelimiter, hab, Element.filter_bareMarkup hk]

theorem filter_closed (hk : ∀ c, keep c → isDelimiter c) (e : Element) {a b : List Char}
    (hab : a.filter keep = b.filter keep) :
    (closed o e level a).filter keep = (closed o e.blanked level b).filter keep := by
  rw [closed, closed, Element.tag_blanked, Element.name_blanked]
  split
  · simp only [List.filter_append, filter_lineEnded hk, hab]
  · simp only [List.filter_append, filter_margined hk, hab]

theorem only_laidOutAll : ∀ (rs : List (Rose Content)) {a b : List Char},
    (∀ r ∈ rs, ∀ {a b : List Char}, a.filter keep = b.filter keep →
      (laidOut o level r a).only keep = (laidOut o level (r.blanked false) b).only keep) →
    a.filter keep = b.filter keep → (laidOutAll o level rs a).only keep =
      (laidOutAll o level (Rose.blankedAll false rs) b).only keep
  | [], _, _, _, hab => by rw [Rose.blankedAll, laidOutAll, laidOutAll, Passage.only_mk,
      Passage.only_mk, hab]
  | r :: rest, _, _, h, hab => by
    rw [Rose.blankedAll, laidOutAll, laidOutAll]
    exact Passage.only_andThen (h r List.mem_cons_self hab)
      (only_laidOutAll rest fun x hx => h x (List.mem_cons_of_mem r hx))

/-- An element is laid out with the brackets of its blanked form, if the trees below it are. -/
theorem only_laidOut_element (hk : ∀ c, keep c → isBracket c) (e : Element)
    {below : List (Rose Content)} (ih : ∀ r ∈ below, ∀ level {a b : List Char},
      a.filter keep = b.filter keep →
        (laidOut o level r a).only keep = (laidOut o level (r.blanked false) b).only keep)
    {a b : List Char} (hab : a.filter keep = b.filter keep) :
    (laidOut o level (.node (.element e) below) a).only keep =
      (laidOut o level (Rose.blanked false (.node (.element e) below)) b).only keep := by
  have hdelimiter : ∀ c, keep c → isDelimiter c := fun c hc => isDelimiter_of_isBracket (hk c hc)
  have hopened : (opened o e level a).filter keep = (opened o e.blanked level b).filter keep :=
    filter_opened hk e hab
  have htag : e.blanked.tag = e.tag := rfl
  rw [Rose.blanked, Content.blanked, Content.isLiteral]
  by_cases hv : Tag.isVoid e.tag
  · rw [laidOut_void hv, laidOut_void (htag ▸ hv), Passage.only_mk, Passage.only_mk, hopened]
  by_cases hl : Tag.isLiteral e.tag
  · rw [laidOut_literal hv hl, laidOut_literal (htag ▸ hv) (htag ▸ hl), hl]
    refine Passage.only_andThen ?_ fun hcd => ?_
    · rw [Passage.only_append, Passage.only_append, Passage.only_mk, Passage.only_mk, hopened,
        literalMarkupAll_eq, literalMarkupAll_eq,
        only_markupOfAll true below fun r _ => only_markupOf hdelimiter r true]
    · rw [Passage.only_mk, Passage.only_mk, filter_closed hdelimiter e hcd]
  · rw [laidOut_element hv hl, laidOut_element (htag ▸ hv) (htag ▸ hl), Bool.eq_false_iff.mpr hl]
    refine Passage.only_andThen ?_ fun hcd => ?_
    · exact only_laidOutAll below (fun r hr => ih r hr (level + 1)) hopened
    · rw [Passage.only_mk, Passage.only_mk, filter_closed hdelimiter e hcd]

/-- A tree is laid out with the brackets of its blanked form, behind texts with the same
brackets; by induction on the tree. -/
theorem only_laidOut (hk : ∀ c, keep c → isBracket c) (r : Rose Content) (level : Nat)
    {a b : List Char} (hab : a.filter keep = b.filter keep) :
    (laidOut o level r a).only keep = (laidOut o level (r.blanked false) b).only keep := by
  have hdelimiter : ∀ c, keep c → isDelimiter c := fun c hc => isDelimiter_of_isBracket (hk c hc)
  induction r generalizing level a b with
  | node content below ih =>
    cases content with
    | document => exact only_laidOutAll below (fun r hr => ih r hr level) hab
    | element e => exact only_laidOut_element hk e ih hab
    | _ => simp [Rose.blanked, Content.blanked, laidOut, Passage.only, filter_lineEnded hdelimiter,
        filter_margined hdelimiter, filter_escaped hdelimiter, hab]

theorem only_layoutOf (hk : ∀ c, keep c → isBracket c) (o : LayoutOptions) (r : Rose Content) :
    (layoutOf o r).only keep = (layoutOf o (r.blanked false)).only keep := by
  refine Passage.only_andThen (only_laidOut hk r o.level.toNat rfl) fun hab => ?_
  rw [Passage.only_mk, Passage.only_mk]
  split
  · rw [filter_lineEnded fun c hc => isDelimiter_of_isBracket (hk c hc),
      filter_lineEnded fun c hc => isDelimiter_of_isBracket (hk c hc), hab]
  · rw [hab]

end

/-! ## Two trees -/

theorem Output.only_passage {p q : Output} {keep : Char → Bool}
    (h : p.passage.only keep = q.passage.only keep) :
    p.fault = q.fault ∧ p.text.toList.filter keep = q.text.toList.filter keep := by
  rw [toList_text, toList_text]
  exact ⟨congrArg Passage.fault h, congrArg Passage.text h⟩

/-- Trees that differ only in data have the same delimiters in their markup and the same brackets
in their layouts, and the same fault if they have one. -/
theorem delimiters_eq_of_alike {t u : Tree} (ht : t.Reachable) (hu : u.Reachable)
    {id id' : NodeId} (h : Alike (t.shape id) (u.shape id')) :
    ((t.markup id).fault = (u.markup id').fault ∧
      (t.markup id).text.toList.filter isDelimiter =
        (u.markup id').text.toList.filter isDelimiter) ∧
    ∀ o, (t.layout o id).fault = (u.layout o id').fault ∧
      (t.layout o id).text.toList.filter isBracket =
        (u.layout o id').text.toList.filter isBracket := by
  refine ⟨Output.only_passage ?_, fun o => Output.only_passage ?_⟩
  · rw [ht.linked.markup_passage, hu.linked.markup_passage, only_markupOf fun _ hc => hc, h,
      ← only_markupOf fun _ hc => hc]
  · rw [ht.linked.layout_passage, hu.linked.layout_passage, only_layoutOf fun _ hc => hc, h,
      ← only_layoutOf fun _ hc => hc]

/-- A page with a title and a quotation, in front of a script and a comment. -/
def quotation (title text : String) : Tree :=
  (Tree.single .document).run
    [.addChild 0 (.element (.named "pre" [⟨"title", title⟩])), .addChild 1 (.text text),
      .addChild 0 (.element (.named "script" [])), .addChild 3 (.text "a<b"),
      .addChild 0 (.comment ">")]

theorem reachable_quotation (title text : String) : (quotation title text).Reachable :=
  ⟨_, _, rfl⟩

theorem alike_quotation (title text title' text' : String) :
    Alike ((quotation title text).shape Tree.root) ((quotation title' text').shape Tree.root) := by
  have hshape : ∀ title text, (quotation title text).shape Tree.root = .node .document
      [.node (.element (.named "pre" [⟨"title", title⟩])) [.node (.text text) []],
        .node (.element (.named "script" [])) [.node (.text "a<b") []],
        .node (.comment ">") []] := by
    intro title text
    cbv
  rw [Alike, hshape, hshape]
  rfl

/-- A quoted tag and a title that seems to end its own tag make no difference. -/
theorem delimiters_quotation :
    Alike ((quotation "" "\n<b>").shape Tree.root) ((quotation "\"><i" "").shape Tree.root) ∧
    ((quotation "" "\n<b>").markup Tree.root).text =
      "<pre title=\"\">\n\n&lt;b&gt;</pre><script>a<b</script><!-->-->" ∧
    ((quotation "\"><i" "").markup Tree.root).text.toList.filter isDelimiter =
      "<\"\"><><><<><>>".toList ∧
    ((quotation "" "\n<b>").layout {} Tree.root).text.toList.filter isBracket =
      ((quotation "\"><i" "").layout {} Tree.root).text.toList.filter isBracket := by
  have h := alike_quotation "" "\n<b>" "\"><i" ""
  have htext : ((quotation "" "\n<b>").markup Tree.root).text =
      "<pre title=\"\">\n\n&lt;b&gt;</pre><script>a<b</script><!-->-->" := by decide +kernel
  obtain ⟨⟨-, hmarkup⟩, hlayout⟩ := delimiters_eq_of_alike (reachable_quotation _ _)
    (reachable_quotation _ _) h
  refine ⟨h, htext, ?_, (hlayout {}).2⟩
  rw [← hmarkup, htext]
  decide +kernel

end Hypertext
