import Hypertext.Proofs.Writer.Faults
import Hypertext.Proofs.Writer.Spacing

/-!
# What a layout covers

A layout goes the way through a tree in document order that markup goes (`Tree.turns`). If it
succeeds, it has a portion for each turn, which is what is written at the turn with blanks around it
(`Tree.Covers`), and no turn leads into an error node. So a layout drops nothing on its way.

The way does not lead below void elements, and for these a layout has no fault: what stands there
is left out without a word. Where only elements, documents and error nodes have children, this is
all that a layout leaves out.

* `Linked.covers_laidOut`: the layout of a tree continues a text by the portions for its turns.
* `layout_covers`: a whole layout, and which nodes its portions are for.
* `layout_drops_text`: a text below a line break is left out.
-/

namespace Hypertext

/-- What a layout has for a turn: its own part, and what stands around it. -/
structure Portion where
  turn : Turn
  before : List Char
  own : List Char
  after : List Char

def Portion.chars (p : Portion) : List Char :=
  p.before ++ p.own ++ p.after

namespace Tree

/-- What may be written at a turn: the same as in markup, or a tag as layouts have it. -/
inductive MayWrite (t : Tree) : Turn → List Char → Prop where
  | written (turn : Turn) : MayWrite t turn (t.written turn)
  | startTag {id : NodeId} {e : Element} (literal : Bool) (h : t.contentAt id = .element e) :
      MayWrite t (.enter id literal) (Segment.startTag e).chars
  | endTag {id : NodeId} {e : Element} (h : t.contentAt id = .element e) :
      MayWrite t (.leave id) (Segment.endTag e).chars

theorem MayWrite.of_written {t : Tree} {turn : Turn} {chars : List Char}
    (h : t.written turn = chars) : t.MayWrite turn chars :=
  h ▸ .written turn

end Tree

/-- A portion is what may be written at its turn, with blanks around it. The turn does not lead into
an error node. -/
structure Portion.Fits (t : Tree) (p : Portion) : Prop where
  own : t.MayWrite p.turn p.own
  blank : ∀ c ∈ p.before ++ p.after, c = ' ' ∨ c = '\n'
  no_error : ∀ id ∈ entered [p.turn], t.contentAt id ≠ .error

theorem blank_margin (o : LayoutOptions) (level : Nat) : ∀ c ∈ margin o level, c = ' ' :=
  fun _ hc => List.eq_of_mem_replicate hc

theorem Gap.blank {o : LayoutOptions} {s : Segment} {before : List Char} (h : Gap o s before) :
    ∀ c ∈ before, c = ' ' ∨ c = '\n' := by
  cases h with
  | none => exact fun c hc => absurd hc List.not_mem_nil
  | margin level _ => exact fun c hc => .inl (blank_margin o level c hc)
  | line level _ =>
    refine List.forall_mem_cons.mpr ⟨.inr rfl, fun c hc => .inl (blank_margin o level c hc)⟩

theorem Ending.blank {s : Segment} {after : List Char} (h : Ending s after) :
    ∀ c ∈ after, c = ' ' ∨ c = '\n' := by
  cases h with
  | none => exact fun c hc => absurd hc List.not_mem_nil
  | line _ => exact List.forall_mem_singleton.mpr (.inr rfl)

namespace Tree

variable {t : Tree} {kids : NodeId → List NodeId} {o : LayoutOptions} {level : Nat}
  {text text' text'' : List Char} {turns turns' : List Turn} {turn : Turn} {id x : NodeId}
  {e : Element}

/-- The text `after` continues the text `before` by fitting portions for these turns. -/
def Covers (t : Tree) (before : List Char) (turns : List Turn) (after : List Char) : Prop :=
  ∃ portions : List Portion, after = before ++ portions.flatMap Portion.chars ∧
    portions.map Portion.turn = turns ∧ ∀ p ∈ portions, p.Fits t

namespace Covers

theorem refl (t : Tree) (text : List Char) : t.Covers text [] text :=
  ⟨[], (List.append_nil text).symm, rfl, fun _ hp => absurd hp List.not_mem_nil⟩

theorem trans (h : t.Covers text turns text') (h' : t.Covers text' turns' text'') :
    t.Covers text (turns ++ turns') text'' := by
  obtain ⟨portions, rfl, rfl, hfits⟩ := h
  obtain ⟨portions', rfl, rfl, hfits'⟩ := h'
  refine ⟨portions ++ portions', ?_, List.map_append, fun p hp => ?_⟩
  · rw [List.flatMap_append, List.append_assoc]
  · rcases List.mem_append.mp hp with hp | hp
    · exact hfits p hp
    · exact hfits' p hp

/-- A segment with whitespace around it is a portion, if it may be written at the turn. -/
theorem of_spread {s : Segment} (h : Spread o text [s] text') (hown : t.MayWrite turn s.chars)
    (hsound : ∀ id ∈ entered [turn], t.contentAt id ≠ .error) : t.Covers text [turn] text' := by
  obtain ⟨spaced, rfl, hsegments, hallowed⟩ := h
  obtain ⟨x, rfl, rfl⟩ := List.map_eq_singleton_iff.mp hsegments
  obtain ⟨hgap, hending⟩ := hallowed x List.mem_cons_self
  refine ⟨[⟨turn, x.before, x.segment.chars, x.after⟩], rfl, rfl, fun p hp => ?_⟩
  obtain rfl := List.mem_singleton.mp hp
  exact ⟨hown, List.forall_mem_append.mpr ⟨hgap.blank, hending.blank⟩, hsound⟩

/-- What markup has for turns, without anything around it. -/
theorem written (text : List Char) : ∀ turns : List Turn,
    (∀ id ∈ entered turns, t.contentAt id ≠ .error) →
      t.Covers text turns (text ++ turns.flatMap t.written)
  | [], _ => by
    rw [List.flatMap_nil, List.append_nil]
    exact .refl t text
  | turn :: rest, hsound => by
    rw [← List.singleton_append, entered_append, List.forall_mem_append] at hsound
    have hfirst : t.Covers text [turn] (text ++ t.written turn) := by
      refine ⟨[⟨turn, [], t.written turn, []⟩], ?_, rfl, fun p hp => ?_⟩
      · simp [Portion.chars]
      · obtain rfl := List.mem_singleton.mp hp
        exact ⟨.written turn, fun c hc => absurd hc List.not_mem_nil, hsound.1⟩
    rw [List.flatMap_cons, ← List.append_assoc]
    exact hfirst.trans (written _ rest hsound.2)

/-- A turn at which markup has nothing. -/
theorem of_written_nil (text : List Char) (hnil : t.written turn = [])
    (hsound : ∀ id ∈ entered [turn], t.contentAt id ≠ .error) : t.Covers text [turn] text := by
  have h := written text [turn] hsound
  rwa [List.flatMap_singleton, hnil, List.append_nil] at h

end Covers

/-- A turn into a node that is known to hold something else than an error. -/
theorem sound_enter {content : Content} (hc : t.contentAt id = content) (hne : content ≠ .error)
    (literal : Bool) : ∀ x ∈ entered [Turn.enter id literal], t.contentAt x ≠ .error := by
  rw [entered_enter, entered_nil]
  exact List.forall_mem_singleton.mpr (hc ▸ hne)

theorem sound_leave (t : Tree) (id : NodeId) :
    ∀ x ∈ entered [Turn.leave id], t.contentAt x ≠ .error :=
  fun _ hx => absurd hx List.not_mem_nil

namespace Linked

/-- The layouts of the trees below a node cover the ways through them, if that is so of each. -/
theorem covers_laidOutAll : ∀ (ids : List NodeId) (text : List Char),
    (∀ c ∈ ids, ∀ text, (laidOut o level (t.shape c) text).fault = none →
      t.Covers text (t.turns c) (laidOut o level (t.shape c) text).text) →
    (laidOutAll o level (ids.map t.shape) text).fault = none →
      t.Covers text (ids.flatMap (t.turns · false)) (laidOutAll o level (ids.map t.shape) text).text
  | [], text, _, _ => .refl t text
  | id :: ids, text, hids, hf => by
    rw [List.map_cons] at hf ⊢
    obtain ⟨hfirst, hrest⟩ := Passage.fault_andThen hf
    rw [laidOutAll, Passage.andThen_none hfirst, List.flatMap_cons]
    exact (hids id List.mem_cons_self text hfirst).trans
      (covers_laidOutAll ids _ (fun c hc => hids c (List.mem_cons_of_mem id hc)) hrest)

/-- The markup of the trees below a node covers the ways through them. -/
theorem covers_markupOfAll (h : Linked t kids) (literal : Bool) (ids : List NodeId)
    (text : List Char) (hf : (markupOfAll literal (ids.map t.shape)).fault = none) :
    t.Covers text (ids.flatMap (t.turns · literal))
      (text ++ (markupOfAll literal (ids.map t.shape)).text) := by
  rw [← passage_turnsAll literal ids fun c _ => h.passage_turns c literal] at hf ⊢
  rw [text_passageAlong hf]
  refine Covers.written text _ fun x hx herror => ?_
  rw [fault_passageAlong, List.findSome?_eq_none_iff] at hf
  have hx := hf x hx
  rw [faultAt, herror] at hx
  cases hx

/-- An element covers the way through it, if the trees below it do. -/
theorem covers_element (h : Linked t kids) (hc : t.contentAt id = .element e)
    (hbelow : ∀ c ∈ t.children id, ∀ level text, (laidOut o level (t.shape c) text).fault = none →
      t.Covers text (t.turns c) (laidOut o level (t.shape c) text).text)
    (hf : (laidOut o level (.node (.element e) ((t.children id).map t.shape)) text).fault = none) :
    t.Covers text (t.turns id)
      (laidOut o level (.node (.element e) ((t.children id).map t.shape)) text).text := by
  have hopened : t.Covers text [.enter id false] (opened o e level text) :=
    .of_spread (spread_opened o e level text) (.startTag false hc)
      (sound_enter hc Content.noConfusion false)
  have hclosed : ∀ text, t.Covers text [.leave id] (closed o e level text) := fun text =>
    .of_spread (spread_closed o e level text) (.endTag hc) (sound_leave t id)
  rw [h.turns_eq, hc]
  by_cases hv : Tag.isVoid e.tag
  · rw [laidOut_void hv, Content.isLeaf, if_pos hv]
    exact hopened
  rw [Content.isLeaf, if_neg hv, Content.isLiteral]
  by_cases hl : Tag.isLiteral e.tag
  · rw [laidOut_literal hv hl, literalMarkupAll_eq] at hf ⊢
    obtain ⟨hmarkup, -⟩ := Passage.fault_andThen hf
    simp only [Passage.andThen_none hmarkup, hl]
    exact hopened.trans ((h.covers_markupOfAll true _ _ hmarkup).trans (hclosed _))
  · rw [laidOut_element hv hl] at hf ⊢
    obtain ⟨hinner, -⟩ := Passage.fault_andThen hf
    simp only [Passage.andThen_none hinner, Bool.eq_false_iff.mpr hl]
    have hall := covers_laidOutAll (t.children id) (opened o e level text)
      (fun c hc => hbelow c hc (level + 1)) hinner
    exact hopened.trans (hall.trans (hclosed _))

/-- The layout of a tree covers the way through it, by induction on the tree. -/
theorem covers_laidOut (h : Linked t kids) (id : NodeId) (level : Nat) (text : List Char)
    (hf : (laidOut o level (t.shape id) text).fault = none) :
    t.Covers text (t.turns id) (laidOut o level (t.shape id) text).text := by
  induction id using h.induction generalizing level text with
  | step id ih =>
    rw [h.shape_eq] at hf ⊢
    cases hc : t.contentAt id with
    | document =>
      rw [hc] at hf
      rw [h.turns_eq, hc, Content.isLeaf, if_neg Bool.false_ne_true]
      have henter : t.Covers text [.enter id false] text :=
        .of_written_nil text (by rw [written, hc]) (sound_enter hc Content.noConfusion false)
      have hleave : ∀ text, t.Covers text [.leave id] text := fun text =>
        .of_written_nil text (by rw [written, hc]) (sound_leave t id)
      have hall := covers_laidOutAll (t.children id) text (fun c hc => ih c hc level) hf
      exact henter.trans (hall.trans (hleave _))
    | element e =>
      rw [hc] at hf
      exact h.covers_element hc ih hf
    | text data =>
      obtain ⟨before, heq, hgap⟩ := exists_gap_margined (p := .text data) o level text trivial
      rw [h.turns_eq, hc, laidOut, heq]
      exact .of_spread (.inLine text hgap) (.of_written (by rw [written, hc]; rfl))
        (sound_enter hc Content.noConfusion false)
    | comment data =>
      obtain ⟨before, heq, hgap⟩ := exists_gap_margined (p := .comment data) o level text trivial
      rw [h.turns_eq, hc, laidOut, heq]
      exact .of_spread (.inLine text hgap) (.of_written (by rw [written, hc]; rfl))
        (sound_enter hc Content.noConfusion false)
    | doctype d =>
      rw [h.turns_eq, hc, laidOut]
      exact .of_spread (spread_doctype o d text) (.of_written (by rw [written, hc]; rfl))
        (sound_enter hc Content.noConfusion false)
    | raw data =>
      rw [h.turns_eq, hc, laidOut]
      exact .of_spread (.verbatim o text data.toList) (.of_written (by rw [written, hc]; rfl))
        (sound_enter hc Content.noConfusion false)
    | error =>
      rw [hc] at hf
      cases hf

/-! ## The turns of a way -/

/-- A turn leads into the node where the way begins, or into a child of a node, with the information
whether the text directly below that node is literal. -/
theorem literal_of_mem_turns (h : Linked t kids) {literal literal' : Bool}
    (hx : .enter x literal' ∈ t.turns id literal) : (x = id ∧ literal' = literal) ∨
      x ≠ id ∧ ∃ p, t.parent? x = some p ∧ literal' = (t.contentAt p).isLiteral := by
  induction id using h.induction generalizing literal with
  | step id ih =>
    rw [h.turns_eq] at hx
    rcases List.mem_cons.mp hx with heq | hx
    · cases heq
      exact .inl ⟨rfl, rfl⟩
    split at hx
    · cases hx
    rcases List.mem_append.mp hx with hx | hx
    · obtain ⟨c, hc, hx⟩ := List.mem_flatMap.mp hx
      have hcx : t.AtOrBelow c x := by
        have hentered : x ∈ entered (t.turns c (t.contentAt id).isLiteral) :=
          List.mem_filterMap.mpr ⟨_, hx, rfl⟩
        rw [turns, Rose.entered_turns] at hentered
        exact (h.mem_reached.mp hentered).1
      refine .inr ⟨(h.ne_of_below_child hc hcx).symm, ?_⟩
      rcases ih c hc hx with ⟨rfl, hliteral⟩ | ⟨-, hparent⟩
      · exact ⟨id, h.mem_children.mp hc, hliteral⟩
      · exact hparent
    · cases List.mem_singleton.mp hx

end Linked

/-- Whether a node is a child of a node with literal content, from `id` on down. -/
def isLiteralBelow (t : Tree) (id x : NodeId) : Bool :=
  x != id && (t.parent? x).any fun p => (t.contentAt p).isLiteral

/-- The way through the nodes at and below `id` leads into each node that is visited, as literal
text or not by what stands directly above it. -/
theorem Linked.enter_mem_turns (h : Linked t kids) (hx : x ∈ t.visited id) :
    .enter x (t.isLiteralBelow id x) ∈ t.turns id := by
  obtain ⟨turn, hturn, hentered⟩ := List.mem_filterMap.mp hx
  cases turn with
  | leave y => cases hentered
  | enter y literal =>
    obtain rfl : y = x := Option.some.inj hentered
    have hliteral : t.isLiteralBelow id y = literal := by
      rcases h.literal_of_mem_turns hturn with ⟨rfl, rfl⟩ | ⟨hne, p, hp, rfl⟩
      · simp [isLiteralBelow]
      · simp [isLiteralBelow, hne, hp]
    exact hliteral ▸ hturn

/-! ## What is left out -/

/-- At and below `id`, texts, comments, doctypes and raw nodes have no children. -/
def DataNodesAreLeaves (t : Tree) (id : NodeId) : Prop :=
  ∀ x, t.AtOrBelow id x → (t.contentAt x).kind ∈ [Kind.text, .comment, .doctype, .raw] →
    t.children x = []

/-- From `id` on down, no void element is strictly above `x`. -/
def ClearOfVoids (t : Tree) (id x : NodeId) : Prop :=
  ∀ a, t.StrictlyAbove id a x → ¬ Tag.isVoid (t.contentAt a).tag?

/-- A leaf with something below it is a void element or an error node, if no data node has
children. -/
theorem DataNodesAreLeaves.of_isLeaf (hdata : t.DataNodesAreLeaves id) {a : NodeId}
    (ha : t.StrictlyAbove id a x) (hleaf : (t.contentAt a).isLeaf) :
    Tag.isVoid (t.contentAt a).tag? ∨ t.contentAt a = .error := by
  obtain ⟨hida, hax, hne⟩ := ha
  obtain ⟨c, hc, -⟩ := hax.eq_or_child.resolve_left hne
  have hchildren : t.children a ≠ [] := List.ne_nil_of_mem hc
  have hkind := mt (hdata a hida) hchildren
  cases hcontent : t.contentAt a with
  | document => rw [hcontent] at hleaf; cases hleaf
  | element e => rw [hcontent] at hleaf; exact .inl hleaf
  | error => exact .inr rfl
  | _ => rw [hcontent] at hkind; exact absurd (by simp [Content.kind]) hkind

namespace Linked

/-- Where no data node has children, and no error node is met, the way through a tree leads into
the nodes without a void element strictly above them. -/
theorem lists_clearOfVoids (h : Linked t kids) (hdata : t.DataNodesAreLeaves id)
    (hsound : ∀ x ∈ t.visited id, t.contentAt x ≠ .error) :
    t.Lists id (t.visited id) (t.ClearOfVoids id) := by
  refine (h.lists_visited id).congr fun x hx => ⟨fun hfree a ha hv => hfree a ha ?_,
    fun hclear a ha hleaf => ?_⟩
  · cases hcontent : t.contentAt a with
    | element e => rw [hcontent] at hv; exact hv
    | _ => rw [hcontent] at hv; cases hv
  · -- The first leaf on the way down to `a` is met, so it is no error node.
    obtain ⟨b, hb, hleaf, hba⟩ :=
      h.exists_stop_above (fun y => (t.contentAt y).isLeaf) ha.1 hleaf
    have hvisited : b ∈ t.visited id := by rwa [visited, turns, Rose.entered_turns]
    have hbx : t.StrictlyAbove id b x := by
      refine ⟨(h.mem_reached.mp hb).1, hba.trans ha.2.1, ?_⟩
      rintro rfl
      exact h.not_strictlyAbove_self ⟨hba, ha.2⟩
    rcases hdata.of_isLeaf hbx hleaf with hv | herror
    · exact hclear b hbx hv
    · exact hsound b hvisited herror

theorem dataNodesAreLeaves (h : Linked t kids) (hid : id < t.size)
    (hall : ∀ x < t.size, (t.contentAt x).kind ∈ [Kind.text, .comment, .doctype, .raw] →
      t.children x = []) : t.DataNodesAreLeaves id := fun x hx =>
  hall x (h.lt_of_mem_rose hid (h.mem_rose.mpr hx))

end Linked

end Tree

/-- If a layout succeeds, where texts, comments, doctypes and raw nodes have no children, then it is
a portion for each turn of the way through the tree in order, and perhaps a newline at the end. The
way leads into all nodes without a void element strictly above them, and none of these is an error
node. For a text among them the portion has its data, escaped, or as it stands if it is a child of
an element with literal content. -/
theorem layout_covers {t : Tree} (ht : t.Reachable) (o : LayoutOptions) (id : NodeId)
    (hdata : t.DataNodesAreLeaves id) (hf : (t.layout o id).fault = none) :
    ∃ (portions : List Portion) (final : List Char),
      (t.layout o id).text = String.ofList (portions.flatMap Portion.chars ++ final) ∧
      (final = [] ∨ o.trailingNewline ∧ final = ['\n']) ∧
      portions.map Portion.turn = t.turns id ∧ (∀ p ∈ portions, p.Fits t) ∧
      t.Lists id (t.visited id) (t.ClearOfVoids id) ∧
      (∀ x, t.AtOrBelow id x → t.ClearOfVoids id x → t.contentAt x ≠ .error) ∧
      ∀ x data, t.AtOrBelow id x → t.ClearOfVoids id x → t.contentAt x = .text data →
        ∃ p ∈ portions, p.turn = .enter x (t.isLiteralBelow id x) ∧
          p.own = if t.isLiteralBelow id x then data.toList else escaped data := by
  have h := ht.linked
  obtain ⟨hlaid, final, htext, hfinal⟩ := h.text_layout o id hf
  obtain ⟨portions, heq, hturns, hfits⟩ := h.covers_laidOut id o.level.toNat [] hlaid
  rw [List.nil_append] at heq
  -- Each node that is visited has a portion, and that fits.
  have hportion : ∀ x ∈ t.visited id, ∃ p ∈ portions,
      p.turn = .enter x (t.isLiteralBelow id x) := fun x hx => by
    have hmem := h.enter_mem_turns hx
    rw [← hturns] at hmem
    exact List.mem_map.mp hmem
  have hsound : ∀ x ∈ t.visited id, t.contentAt x ≠ .error := by
    intro x hx
    obtain ⟨p, hp, hturn⟩ := hportion x hx
    exact (hfits p hp).no_error x (by rw [hturn]; exact List.mem_cons_self)
  have hlists := h.lists_clearOfVoids hdata hsound
  refine ⟨portions, final, heq ▸ htext, hfinal, hturns, hfits, hlists, fun x hx hclear => ?_,
    fun x data hx hclear hc => ?_⟩
  · exact hsound x ((hlists.mem_iff x).mpr ⟨hx, hclear⟩)
  obtain ⟨p, hp, hturn⟩ := hportion x ((hlists.mem_iff x).mpr ⟨hx, hclear⟩)
  refine ⟨p, hp, hturn, ?_⟩
  have hown := (hfits p hp).own
  rw [hturn] at hown
  generalize p.own = own at hown
  cases hown with
  | written => rw [Tree.written, hc]
  | startTag _ he => rw [hc] at he; cases he

/-- In the page with a script, the text of the script has its data as it stands, and the other text
has its data escaped. -/
theorem layout_covers_scripted : scripted.Reachable ∧ scripted.DataNodesAreLeaves Tree.root ∧
    (scripted.layout {} Tree.root).fault = none ∧ ∃ (portions : List Portion) (final : List Char),
      "<!DOCTYPE html>\n<div id>\n  1 &lt; 2<br><script>x<y</script>\n</div>" =
        String.ofList (portions.flatMap Portion.chars ++ final) ∧
      (∃ p ∈ portions, p.turn = .enter 3 false ∧ p.own = "1 &lt; 2".toList) ∧
      ∃ p ∈ portions, p.turn = .enter 6 true ∧ p.own = "x<y".toList := by
  have ht : scripted.Reachable := ⟨_, _, rfl⟩
  have hdata : scripted.DataNodesAreLeaves Tree.root :=
    ht.linked.dataNodesAreLeaves (by decide) (by decide +kernel)
  have hf : (scripted.layout {} Tree.root).fault = none := by decide +kernel
  obtain ⟨portions, final, htext, -, -, -, hlists, -, hdatas⟩ :=
    layout_covers ht {} Tree.root hdata hf
  have hvisited : scripted.visited Tree.root = [0, 1, 2, 3, 4, 5, 6] := by decide +kernel
  obtain ⟨hthree, hclear⟩ := (hlists.mem_iff 3).mp (by rw [hvisited]; decide)
  obtain ⟨hsix, hclear'⟩ := (hlists.mem_iff 6).mp (by rw [hvisited]; decide)
  have hlayout : (scripted.layout {} Tree.root).text =
      "<!DOCTYPE html>\n<div id>\n  1 &lt; 2<br><script>x<y</script>\n</div>" := by
    decide +kernel
  exact ⟨ht, hdata, hf, portions, final, hlayout ▸ htext,
    hdatas 3 "1 < 2" hthree hclear (by decide +kernel),
    hdatas 6 "x<y" hsix hclear' (by decide +kernel)⟩

/-- A line break with a text below it. -/
def crowdedBreak : Tree :=
  (Tree.single .document).run
    [.addChild 0 (.element (.named "br" [])), .addChild 1 (.text "x")]

/-- Its layout succeeds without the text. -/
theorem layout_drops_text : crowdedBreak.Reachable ∧
    crowdedBreak.DataNodesAreLeaves Tree.root ∧ crowdedBreak.AtOrBelow Tree.root 2 ∧
    crowdedBreak.contentAt 2 = .text "x" ∧
    (crowdedBreak.layout {} Tree.root).fault = none ∧
    (crowdedBreak.layout {} Tree.root).text = "<br>" := by
  have ht : crowdedBreak.Reachable := ⟨_, _, rfl⟩
  have hdata : crowdedBreak.DataNodesAreLeaves Tree.root :=
    ht.linked.dataNodesAreLeaves (by decide) (by decide +kernel)
  refine ⟨ht, hdata, .child (c := 1) (by decide +kernel) (.child (by decide +kernel) (.refl _ 2)),
    by decide +kernel, by decide +kernel, by decide +kernel⟩

end Hypertext
