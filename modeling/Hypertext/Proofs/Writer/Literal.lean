import Hypertext.Proofs.Loop.Writing
import Hypertext.Proofs.Writer.Blocks

/-!
# Literal content in a layout

The children of an element with literal content go through a layout as they are: text as it stands,
and all else as markup (`Tree.literalContent`). No line is begun for them and none is indented. Only
the end tag behind them is indented if it comes first on its line, and it does so when they end
with a newline.

Whatever the writer of layouts does, it goes on with its page by writes one after another
(`Page.Becomes`), so what it writes for one task stands behind what it has written for the tasks
before.

* `Linked.mem_taken`: the writer comes to the nodes that have no leaf and no element with literal
  content strictly above them, at the level of the layout and one more for each element above.
* `layout_literal`: what is written for an element with literal content, and behind what.
-/

namespace Hypertext

/-! ## Pages that grow -/

/-- The page `q` comes from `p` by writes one after another. -/
def Page.Becomes (p q : Page) : Prop :=
  ∃ writes, q = p.writeAll writes

namespace Page.Becomes

variable {p q r : Page}

theorem refl (p : Page) : p.Becomes p := ⟨[], rfl⟩

theorem trans (h : p.Becomes q) (h' : q.Becomes r) : p.Becomes r := by
  obtain ⟨writes, rfl⟩ := h
  obtain ⟨writes', rfl⟩ := h'
  exact ⟨writes ++ writes', List.foldl_append.symm⟩

theorem write (p : Page) (s : String) : p.Becomes (p.write s) := ⟨[s], rfl⟩

theorem writeAll (p : Page) (writes : List String) : p.Becomes (p.writeAll writes) :=
  ⟨writes, rfl⟩

theorem endLine (p : Page) : p.Becomes p.endLine := by
  rw [Page.endLine]
  split
  · exact refl p
  · exact write p "\n"

theorem indentAtLineStart (o : LayoutOptions) (level : UInt64) (p : Page) :
    p.Becomes (p.indentAtLineStart o level) := by
  rw [Page.indentAtLineStart]
  split
  · exact write p _
  · exact refl p

end Page.Becomes

/-- The text of the page `q` continues that of `p`. -/
def Page.Continues (p q : Page) : Prop :=
  ∀ text, p.Shows text → ∃ more, q.Shows (text ++ more)

theorem Page.Becomes.continues {p q : Page} (h : p.Becomes q) : p.Continues q := by
  obtain ⟨writes, rfl⟩ := h
  exact fun _ hs => ⟨joined writes, hs.writeAll writes⟩

namespace Layout

open Page (Becomes)

variable {t : Tree} {kids : NodeId → List NodeId} {o : LayoutOptions} {p : Page}

theorem becomes_openTag (o : LayoutOptions) (e : Element) (level : UInt64) (p : Page) :
    p.Becomes (openTag o e level p) := by
  have htag : ∀ p : Page, p.Becomes ((p.indentAtLineStart o level).writeAll
      (["<", e.name] ++ e.attributes.flatMap Attribute.bareWrites ++ [">"])) := fun p =>
    (Becomes.indentAtLineStart o level p).trans (.writeAll _ _)
  rw [openTag]
  by_cases hb : Tag.isBlock e.tag
  · simp only [hb, if_true]
    exact ((Becomes.endLine p).trans (htag _)).trans (.write _ "\n")
  · simp only [hb, if_false, Bool.false_eq_true]
    exact htag p

theorem becomes_closeTag (o : LayoutOptions) (name : String) (level : UInt64) (block : Bool)
    (p : Page) : p.Becomes (closeTag o name level block p) := by
  have htag : ∀ p : Page, p.Becomes ((p.indentAtLineStart o level).writeAll
      (endTagWrites name)) := fun p =>
    (Becomes.indentAtLineStart o level p).trans (.writeAll _ _)
  rw [closeTag]
  cases block with
  | true => exact ((Becomes.endLine p).trans (.write _ _)).trans (htag _)
  | false => exact htag p

theorem becomes_literalChildren (t : Tree) : ∀ (ids : List NodeId) (p : Page),
    p.Becomes (literalChildren t ids p).1
  | [], p => Becomes.refl p
  | id :: ids, p => by
    by_cases htext : ∃ data, t.content? id = some (.text data)
    · obtain ⟨data, hc⟩ := htext
      simp only [literalChildren, hc]
      exact (Becomes.write p data).trans (becomes_literalChildren t ids _)
    · rw [literalChildren_of_not_text (fun data e => htext ⟨data, e⟩), embed]
      have hmarkup : p.Becomes (p.writeAll (t.markup id).writes.toList) := .writeAll p _
      cases (t.markup id).fault with
      | none => exact hmarkup.trans (becomes_literalChildren t ids _)
      | some f => exact hmarkup

/-- Whatever is written for a task goes on with the page. -/
theorem becomes_write (t : Tree) (o : LayoutOptions) (task : Task) (p : Page) :
    p.Becomes (task.write t o p).1 := by
  cases task with
  | close name level block => exact becomes_closeTag o name level block p
  | node id level =>
    rw [Task.write]
    cases t.contentAt id with
    | document => exact Becomes.refl p
    | element e =>
      have hopen := becomes_openTag o e level p
      have hbelow := becomes_literalChildren t (t.children id) (openTag o e level p)
      simp only [writeElement]
      split
      · generalize literalChildren t (t.children id) (openTag o e level p) = r at hbelow ⊢
        obtain ⟨q, _ | f⟩ := r
        · exact (hopen.trans hbelow).trans (becomes_closeTag o e.name level _ q)
        · exact hopen.trans hbelow
      · exact hopen
    | text data => exact (Becomes.indentAtLineStart o level p).trans (.write _ _)
    | comment data => exact (Becomes.indentAtLineStart o level p).trans (.writeAll _ _)
    | doctype d => exact (Becomes.writeAll p d.writes).trans (.endLine _)
    | raw data => exact Becomes.write p data
    | error => exact Becomes.refl p

/-- The page after these tasks, if no fault comes up. -/
def pageAfter (t : Tree) (o : LayoutOptions) (tasks : List Task) (p : Page) : Page :=
  tasks.foldl (fun p task => (task.write t o p).1) p

theorem becomes_pageAfter (t : Tree) (o : LayoutOptions) : ∀ (tasks : List Task) (p : Page),
    p.Becomes (pageAfter t o tasks p)
  | [], p => Becomes.refl p
  | task :: tasks, p => (becomes_write t o task p).trans (becomes_pageAfter t o tasks _)

/-- What has been written after these tasks. -/
def textAfter (t : Tree) (o : LayoutOptions) (tasks : List Task) : List Char :=
  joined (pageAfter t o tasks {}).writes.toList

theorem shows_textAfter (t : Tree) (o : LayoutOptions) (tasks : List Task) :
    (pageAfter t o tasks {}).Shows (textAfter t o tasks) := by
  obtain ⟨more, hs⟩ := (becomes_pageAfter t o tasks {}).continues [] Page.Shows.start
  rwa [textAfter, hs.1]

end Layout

/-! ## Down to an element with literal content -/

namespace Tree

variable {t : Tree} {kids : NodeId → List NodeId} {id x : NodeId} {level : Nat}

/-- The writer of layouts comes to the nodes that have no leaf and no element with literal content
strictly above them, by induction on the tree. -/
theorem Linked.mem_taken (h : Linked t kids) {taken : List Layout.Task}
    (htop : .node id (.ofNat level) ∈ taken)
    (hnext : ∀ task ∈ taken, ∀ next ∈ task.next t, next ∈ taken)
    (hx : t.AtOrBelow id x)
    (hopen : ∀ a, t.StrictlyAbove id a x →
      ¬ (t.contentAt a).isLeaf ∧ ¬ (t.contentAt a).isLiteral) :
    .node x (.ofNat (level + (t.elementsAbove id x).length)) ∈ taken := by
  induction id using h.induction generalizing level with
  | step id ih =>
    rcases hx.eq_or_child with rfl | ⟨c, hc, hcx⟩
    · rw [h.elementsAbove_self]
      exact htop
    obtain ⟨hleaf, hliteral⟩ := hopen id ((h.strictlyAbove_child hc hcx).mpr (.inl rfl))
    have hbelow : ∀ {level}, .node c (.ofNat level) ∈ taken →
        .node x (.ofNat (level + (t.elementsAbove c x).length)) ∈ taken := fun htask =>
      ih c hc htask hcx fun a ha => hopen a ((h.strictlyAbove_child hc hcx).mpr (.inr ha))
    have htasks := hnext _ htop
    have helement := t.isElement_eq id
    rw [h.length_elementsAbove hc hcx, ← Nat.add_assoc]
    rw [Layout.Task.next] at htasks
    cases hid : t.contentAt id with
    | document =>
      rw [hid] at htasks helement
      rw [if_neg (show ¬ t.isElement id = true from Bool.eq_false_iff.mp helement)]
      exact hbelow (htasks _ (List.mem_map_of_mem hc))
    | element e =>
      rw [hid] at hleaf hliteral htasks helement
      have hv : Tag.isVoid e.tag = false := Bool.eq_false_iff.mpr hleaf
      have hl : Tag.isLiteral e.tag = false := Bool.eq_false_iff.mpr hliteral
      simp only [hv, hl, Bool.or_false, Bool.false_eq_true, if_false] at htasks
      have hdeeper : UInt64.ofNat level + 1 = .ofNat (level + 1) := (UInt64.ofNat_add level 1).symm
      rw [if_pos (show t.isElement id = true from helement)]
      rw [hdeeper] at htasks
      exact hbelow (htasks _ (List.mem_append_left _ (List.mem_map_of_mem hc)))
    | _ => rw [hid] at hleaf; exact absurd rfl hleaf

/-- What stands for a node in literal content: its text as it stands, or else its markup. -/
def literalPart (t : Tree) (id : NodeId) : List Char :=
  match t.content? id with
  | some (.text data) => data.toList
  | _ => (t.markup id).text.toList

/-- The children of a node as literal content. -/
def literalContent (t : Tree) (id : NodeId) : List Char :=
  (t.children id).flatMap t.literalPart

/-- A node in literal content is written as its part, up to the fault in its markup if it is not a
text. -/
theorem Linked.literalMarkup_shape (h : Linked t kids) (id : NodeId) : literalMarkup (t.shape id) =
    ⟨t.literalPart id, if t.isText id then none else (t.markup id).fault⟩ := by
  rw [literalPart, isText]
  by_cases htext : ∃ data, t.content? id = some (.text data)
  · obtain ⟨data, hc⟩ := htext
    rw [h.shape_of_content? hc, hc]
    rfl
  · have hc : ∀ data, t.content? id ≠ some (.text data) := fun data e => htext ⟨data, e⟩
    have hpart : literalMarkup (t.shape id) = (t.markup id).passage := by
      rw [h.markup_passage, Layout.literalMarkup_of_not_text h hc]
    rw [hpart, Output.passage, Output.toList_text]
    cases hid : t.content? id with
    | none => rfl
    | some content =>
      cases content with
      | text data => exact absurd hid (hc data)
      | _ => rfl

/-- Nodes in literal content are written as their parts in order, if there is no fault in their
markup. -/
theorem Linked.literalMarkupAll_shape (h : Linked t kids) : ∀ {ids : List NodeId},
    (literalMarkupAll (ids.map t.shape)).fault = none →
      (literalMarkupAll (ids.map t.shape)).text = ids.flatMap t.literalPart ∧
        ∀ id ∈ ids, ¬ t.isText id → (t.markup id).fault = none
  | [], _ => ⟨rfl, fun _ hid => absurd hid List.not_mem_nil⟩
  | id :: ids, hf => by
    rw [List.map_cons, literalMarkupAll, h.literalMarkup_shape] at hf ⊢
    generalize hfault : (if t.isText id then none else (t.markup id).fault) = fault at hf ⊢
    cases fault with
    | none =>
      rw [Passage.mk_none_append] at hf ⊢
      obtain ⟨htext, hnone⟩ := h.literalMarkupAll_shape hf
      refine ⟨by rw [htext, List.flatMap_cons], fun x hx htextx => ?_⟩
      rcases List.mem_cons.mp hx with rfl | hx
      · rwa [if_neg htextx] at hfault
      · exact hnone x hx htextx
    | some f =>
      rw [Passage.mk_some_append] at hf
      cases hf

end Tree

/-! ## An element with literal content -/

section

variable {o : LayoutOptions} {level : Nat} {e : Element}

/-- The tags with literal content are neither those of block elements nor those of void ones. -/
theorem not_block_of_literal (hl : Tag.isLiteral e.tag) :
    Tag.isBlock e.tag = false ∧ Tag.isVoid e.tag = false := by
  have hall : ∀ tag ∈ Tag.literals, Tag.blocks.contains tag = false ∧
      Tag.voids.contains tag = false := by decide
  cases htag : e.tag with
  | none => exact ⟨rfl, rfl⟩
  | some tag =>
    rw [htag] at hl
    exact hall tag (List.contains_iff_mem.mp hl)

/-- Behind a start tag a line begins only if what follows the tag ends with a newline. -/
theorem lineBegins_behind_tag (text content : List Char) (e : Element) :
    lineBegins (text ++ e.bareMarkup ++ content) = (content.getLast? == some '\n') := by
  rw [lineBegins, List.getLast?_append, Element.bareMarkup, ← List.append_assoc,
    List.getLast?_concat]
  cases content.getLast? with
  | none => rfl
  | some c => rfl

/-- The end tag behind literal content. -/
theorem closed_literal (hl : Tag.isLiteral e.tag) (text content : List Char) :
    closed o e level (opened o e level text ++ content) =
      margined o level text ++ e.bareMarkup ++ content ++
        (if content.getLast? = some '\n' then margin o level else []) ++
        ('<' :: '/' :: e.name.toList ++ ['>']) := by
  obtain ⟨hb, -⟩ := not_block_of_literal hl
  simp only [closed, opened, hb, Bool.false_eq_true, if_false]
  rw [margined, lineBegins_behind_tag]
  by_cases hend : content.getLast? = some '\n'
  · rw [if_pos (beq_iff_eq.mpr hend), if_pos hend]
  · rw [if_neg (fun h => hend (beq_iff_eq.mp h)), if_neg hend, List.append_nil]

end

namespace Layout

variable {t : Tree} {kids : NodeId → List NodeId} {o : LayoutOptions} {level : Nat} {p : Page}
  {text : List Char} {x : NodeId} {e : Element}

/-- What is written for an element with literal content. -/
theorem shows_literal (h : t.Linked kids) (hc : t.contentAt x = .element e)
    (hl : Tag.isLiteral e.tag) (hs : p.Shows text)
    (hf : ((Task.node x (.ofNat level)).write t o p).2 = none) :
    ((Task.node x (.ofNat level)).write t o p).1.Shows (margined o level text ++ e.bareMarkup ++
        t.literalContent x ++
        (if (t.literalContent x).getLast? = some '\n' then margin o level else []) ++
        ('<' :: '/' :: e.name.toList ++ ['>'])) ∧
      ∀ c ∈ t.children x, ¬ t.isText c → (t.markup c).fault = none := by
  have hinlines : inlines e = true := by
    rw [inlines, (not_block_of_literal hl).2, hl]
    rfl
  obtain ⟨q, hq, hbelow⟩ := shows_literalChildren h (t.children x) (shows_openTag o level hs e)
  simp only [Task.write, hc, writeElement, hinlines, if_true, hbelow] at hf ⊢
  cases hfault : (literalMarkupAll ((t.children x).map t.shape)).fault with
  | none =>
    obtain ⟨htext, hnone⟩ := h.literalMarkupAll_shape hfault
    rw [htext] at hq
    refine ⟨?_, hnone⟩
    rw [Tree.literalContent, ← closed_literal hl]
    exact shows_closeTag hq e
  | some f =>
    rw [hfault] at hf
    cases hf

theorem stopped_ne (q : Page) {p : Page} (f : Fault) : (p, some f) ≠ (q, none) :=
  fun heq => Option.some_ne_none f (Prod.ext_iff.mp heq).2

/-- The writer of a layout takes these tasks in order, and no fault stops it. -/
def Takes (t : Tree) (o : LayoutOptions) (id : NodeId) (taken : List Task) : Prop :=
  ∃ p, (loop t o).Ends [.node id o.level] {} taken [] (p, none)

namespace Takes

variable {id : NodeId} {task : Task} {taken before after : List Task}

/-- The writer begins with the top node, and goes on to all tasks that take the place of one that it
takes. -/
theorem mem (htakes : Takes t o id taken) : .node id o.level ∈ taken ∧
    ∀ task ∈ taken, ∀ next ∈ task.next t, next ∈ taken := by
  obtain ⟨p, hends⟩ := htakes
  obtain ⟨hpending, hnext, -, -⟩ := Loop.writing_ends_none hends fun _ => stopped_ne p
  exact ⟨hpending _ List.mem_cons_self, hnext⟩

theorem write_eq_none (htakes : Takes t o id (before ++ task :: after)) :
    (task.write t o (pageAfter t o before {})).2 = none := by
  obtain ⟨p, hends⟩ := htakes
  obtain ⟨-, -, hwrites, -⟩ := Loop.writing_ends_none hends fun _ => stopped_ne p
  exact hwrites before task after rfl

end Takes

theorem prefix_textAfter {before : List Task} {task : Task} (after : List Task)
    (hs : (task.write t o (pageAfter t o before {})).1.Shows text) :
    text <+: textAfter t o (before ++ task :: after) := by
  obtain ⟨more, hmore⟩ := (becomes_pageAfter t o after _).continues text hs
  refine ⟨more, ?_⟩
  rw [textAfter, pageAfter, List.foldl_append, List.foldl_cons]
  exact hmore.1.symm

/-- For a layout without a fault the writer takes tasks that read no node twice. The layout is what
they write, and the end of the last line if that is asked for. -/
theorem exists_takes (h : t.Linked kids) (o : LayoutOptions) {id : NodeId}
    (hf : (t.layout o id).fault = none) :
    ∃ taken, Takes t o id taken ∧ t.MeetsOnce id (taken.flatMap (Task.reads t)) ∧
      textAfter t o taken <+: (t.layout o id).text.toList := by
  obtain ⟨taken, left, p, fault, hends, hlayout, honce, -, hleft⟩ := exists_ends h o id
  have hnone : fault = none := by
    rw [hlayout] at hf
    exact hf
  obtain rfl := hleft hnone
  subst hnone
  obtain ⟨-, -, -, hresult⟩ := Loop.writing_ends_none hends fun _ => stopped_ne p
  have hp : p = pageAfter t o taken {} := (Prod.ext_iff.mp hresult).1
  have hlast : p.Becomes (if o.trailingNewline then p.endLine else p) := by
    split
    · exact .endLine p
    · exact .refl p
  have hshows := shows_textAfter t o taken
  rw [← hp] at hshows
  obtain ⟨rest, hrest⟩ := hlast.continues _ hshows
  refine ⟨taken, ⟨p, hends⟩, honce, rest, ?_⟩
  rw [Output.toList_text, hlayout]
  simp only [true_and]
  exact hrest.1.symm

end Layout

/-- An element with literal content that a layout goes down to is written once, at the level of the
layout and one more for each element that it stands in. Behind all that was written before, and the
margin of the level if a line begins there, come its start tag, its children as they are, and its
end tag. The end tag has the margin of the level in front of it if the children end with a newline,
and no other space is written. The margin has `level * width` spaces, as long as a word can hold
this number. -/
theorem layout_literal {t : Tree} (ht : t.Reachable) (o : LayoutOptions) {id x : NodeId}
    {level : Nat} {e : Element} (hf : (t.layout o id).fault = none) (hx : t.AtOrBelow id x)
    (hopen : ∀ a, t.StrictlyAbove id a x →
      ¬ (t.contentAt a).isLeaf ∧ ¬ (t.contentAt a).isLiteral)
    (hc : t.content? x = some (.element e)) (hl : Tag.isLiteral e.tag)
    (hlevel : level = o.level.toNat + (t.elementsAbove id x).length) :
    (∀ c ∈ t.children x, ¬ t.isText c → (t.markup c).fault = none) ∧
    (level * o.width.toNat < UInt64.size →
      margin o level = List.replicate (level * o.width.toNat) ' ') ∧
    ∃ before after rest, Layout.Takes t o id (before ++ .node x (.ofNat level) :: after) ∧
      (∀ task ∈ before ++ after, x ∉ task.reads t) ∧
      (t.layout o id).text.toList =
        margined o level (Layout.textAfter t o before) ++ e.bareMarkup ++ t.literalContent x ++
        (if (t.literalContent x).getLast? = some '\n' then margin o level else []) ++
        ('<' :: '/' :: e.name.toList ++ ['>']) ++ rest := by
  have h := ht.linked
  have hcx : t.contentAt x = .element e := Tree.contentAt_of_content? hc
  obtain ⟨taken, htakes, honce, hlayout⟩ := Layout.exists_takes h o hf
  obtain ⟨htop, hnext⟩ := htakes.mem
  rw [← o.level.ofNat_toNat] at htop
  have hmem := h.mem_taken htop hnext hx hopen
  rw [← hlevel] at hmem
  obtain ⟨before, after, rfl⟩ := List.append_of_mem hmem
  obtain ⟨hshows, hmarkup⟩ :=
    Layout.shows_literal h hcx hl (Layout.shows_textAfter t o before) htakes.write_eq_none
  obtain ⟨rest, hrest⟩ := (Layout.prefix_textAfter after hshows).trans hlayout
  have hreads : x ∈ (Layout.Task.node x (.ofNat level)).reads t := by
    rw [Layout.Task.reads, hcx]
    dsimp only
    split
    · exact h.mem_rose.mpr (.refl t x)
    · exact List.mem_singleton_self x
  exact ⟨hmarkup, margin_of_lt, before, after, rest, htakes, honce.not_mem_reads hreads,
    hrest.symm⟩

/-- A script in a section, with an element and a newline in its content. -/
def scriptSection : Tree :=
  (Tree.single .document).run
    [.addChild 0 (.element (.named "div" [])), .addChild 1 (.element (.named "script" [])),
      .addChild 2 (.text "if (a < b)"), .addChild 2 (.element (.named "b" [])),
      .addChild 4 (.text "&"), .addChild 2 (.text "\n")]

theorem reachable_scriptSection : scriptSection.Reachable := ⟨_, _, rfl⟩

theorem below_scriptSection : scriptSection.AtOrBelow Tree.root 2 :=
  reachable_scriptSection.linked.mem_rose.mp (by decide +kernel)

/-- The layout goes down to the script. -/
theorem open_above_script (a : NodeId) (ha : scriptSection.StrictlyAbove Tree.root a 2) :
    ¬ (scriptSection.contentAt a).isLeaf ∧ ¬ (scriptSection.contentAt a).isLiteral := by
  have hall : ∀ a ∈ (scriptSection.rose Tree.root).toList,
      2 ∈ (scriptSection.rose a).toList → a ≠ 2 →
        ¬ (scriptSection.contentAt a).isLeaf ∧ ¬ (scriptSection.contentAt a).isLiteral := by
    decide +kernel
  have h := reachable_scriptSection.linked
  exact hall a (h.mem_rose.mpr ha.1) (h.mem_rose.mpr ha.2.1) ha.2.2

/-- The element in the script is written as markup, without indentation. The end tag of the script
is indented like its start tag. -/
theorem layout_scriptSection : scriptSection.Reachable ∧
    (scriptSection.layout { level := 1 } Tree.root).fault = none ∧
    String.ofList (scriptSection.literalContent 2) = "if (a < b)<b>&amp;</b>\n" ∧
    ∃ before after rest,
      Layout.Takes scriptSection { level := 1 } Tree.root (before ++ .node 2 2 :: after) ∧
      (∀ task ∈ before ++ after, 2 ∉ task.reads scriptSection) ∧
      (scriptSection.layout { level := 1 } Tree.root).text.toList =
        margined { level := 1 } 2 (Layout.textAfter scriptSection { level := 1 } before) ++
          "<script>if (a < b)<b>&amp;</b>\n    </script>".toList ++ rest := by
  have hf : (scriptSection.layout { level := 1 } Tree.root).fault = none := by decide +kernel
  have hlevel : 2 = 1 + (scriptSection.elementsAbove Tree.root 2).length := by decide +kernel
  have hcontent : String.ofList (scriptSection.literalContent 2) = "if (a < b)<b>&amp;</b>\n" := by
    decide +kernel
  obtain ⟨-, -, before, after, rest, htakes, hreads, htext⟩ :=
    layout_literal (e := .named "script" []) reachable_scriptSection { level := 1 } hf
      below_scriptSection open_above_script (by decide +kernel) (by decide) hlevel
  refine ⟨reachable_scriptSection, hf, hcontent, before, after, rest, htakes, hreads,
    htext.trans ?_⟩
  have hwritten : (Element.named "script" []).bareMarkup ++ scriptSection.literalContent 2 ++
      (if (scriptSection.literalContent 2).getLast? = some '\n' then
        margin { level := 1 } 2 else []) ++ "</script>".toList =
      "<script>if (a < b)<b>&amp;</b>\n    </script>".toList := by decide +kernel
  rw [← hwritten]
  simp only [List.append_assoc]
  rfl

/-- So there can be spaces between the children of an element with literal content and its end tag:
nowhere in this layout does the end tag of the script follow its content. -/
theorem layout_literal_indented : scriptSection.Reachable ∧
    (scriptSection.layout { level := 1 } Tree.root).fault = none ∧
    scriptSection.AtOrBelow Tree.root 2 ∧
    (∀ a, scriptSection.StrictlyAbove Tree.root a 2 →
      ¬ (scriptSection.contentAt a).isLeaf ∧ ¬ (scriptSection.contentAt a).isLiteral) ∧
    scriptSection.content? 2 = some (.element (.named "script" [])) ∧
    Tag.isLiteral (Element.named "script" []).tag ∧
    ¬ ∃ before rest, (scriptSection.layout { level := 1 } Tree.root).text.toList =
      before ++ (Element.named "script" []).bareMarkup ++ scriptSection.literalContent 2 ++
        "</script>".toList ++ rest := by
  have hnot : ¬ ((Element.named "script" []).bareMarkup ++ scriptSection.literalContent 2 ++
      "</script>".toList) <:+: (scriptSection.layout { level := 1 } Tree.root).text.toList := by
    decide +kernel
  refine ⟨reachable_scriptSection, by decide +kernel, below_scriptSection, open_above_script,
    by decide +kernel, by decide, ?_⟩
  rintro ⟨before, rest, htext⟩
  refine hnot ⟨before, rest, ?_⟩
  rw [htext]
  simp only [List.append_assoc]

end Hypertext
