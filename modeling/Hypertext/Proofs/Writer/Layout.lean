import Hypertext.Proofs.Writer.Markup
import Hypertext.Writer.Layout

/-!
# Layout, tree by tree

The layout of a tree of contents by recursion on the tree (`laidOut`). It continues the text
that has come so far, and the one thing that it asks of that text is whether it stands at the
beginning of a line (`lineBegins`): at the very start, and after a newline.

The writer of layouts keeps a list of tasks and a page with a flag instead, and counts levels in
words. `Page.Shows` says that a page holds a text and that its flag is right, which every way of
writing keeps; `Layout.Lays` says what some tasks make of the text so far, whatever tasks follow
them. Levels of the recursion are numbers of any size, and only the number of spaces of a margin is
cut to a word: it comes out the same (`toList_indentation`).

* `Layout.lays_node`: a node is laid out as the tree below it, by induction on that tree.
* `layout_eq_layoutOf`: the writer writes what the recursion says, and stops where it does.
-/

namespace Hypertext

/-! ## By recursion on the tree -/

/-- Whether a text ends where a line begins. -/
def lineBegins (text : List Char) : Bool :=
  match text.getLast? with
  | none => true
  | some c => c == '\n'

/-- A text with its last line ended. -/
def lineEnded (text : List Char) : List Char :=
  if lineBegins text then text else text ++ ['\n']

/-- The spaces in front of a line at this level, in a number that is cut to a word. -/
def margin (o : LayoutOptions) (level : Nat) : List Char :=
  List.replicate (level * o.width.toNat % UInt64.size) ' '

theorem margin_of_lt {o : LayoutOptions} {level : Nat} (h : level * o.width.toNat < UInt64.size) :
    margin o level = List.replicate (level * o.width.toNat) ' ' := by
  rw [margin, Nat.mod_eq_of_lt h]

/-- The indentation of a level that is counted in words. -/
theorem toList_indentation (o : LayoutOptions) (level : Nat) :
    (o.indentation (.ofNat level)).toList = margin o level := by
  rw [LayoutOptions.indentation, String.toList_ofList, UInt64.toNat_mul, UInt64.toNat_ofNat',
    Nat.mod_mul_mod, margin]

/-- The number wraps around: half of the words, twice, are no spaces at all. -/
example : LayoutOptions.indentation {} 0x8000000000000000 = "" := by decide

/-- A text with the margin of its new line, if it stands at the beginning of one. -/
def margined (o : LayoutOptions) (level : Nat) (text : List Char) : List Char :=
  if lineBegins text then text ++ margin o level else text

/-- An attribute in a start tag; an empty value is left out. -/
def Attribute.bareMarkup (a : Attribute) : List Char :=
  ' ' :: a.key.toList ++ if a.value = "" then [] else "=\"".toList ++ escaped a.value ++ ['"']

/-- A start tag with bare attributes. -/
def Element.bareMarkup (e : Element) : List Char :=
  '<' :: e.name.toList ++ e.attributes.flatMap Attribute.bareMarkup ++ ['>']

/-- A text and after it the start tag of an element, which for a block element begins a line
and ends it. -/
def opened (o : LayoutOptions) (e : Element) (level : Nat) (text : List Char) : List Char :=
  if Tag.isBlock e.tag then margined o level (lineEnded text) ++ e.bareMarkup ++ ['\n']
  else margined o level text ++ e.bareMarkup

/-- A text and after it the end tag of an element, which for a block element begins a line. -/
def closed (o : LayoutOptions) (e : Element) (level : Nat) (text : List Char) : List Char :=
  (if Tag.isBlock e.tag then lineEnded text ++ margin o level else margined o level text)
    ++ ('<' :: '/' :: e.name.toList ++ ['>'])

/-- What is written of a child of an element with literal content: a text as it stands, and all
else as markup. -/
def literalMarkup : Rose Content → Passage
  | .node (.text data) _ => ⟨data.toList, none⟩
  | r => markupOf false r

/-- What is written of such children in order. -/
def literalMarkupAll : List (Rose Content) → Passage
  | [] => ⟨[], none⟩
  | r :: rest => literalMarkup r ++ literalMarkupAll rest

/-- What becomes of a text in two steps, the second of which is only taken after no fault. -/
def Passage.andThen (p : Passage) (next : List Char → Passage) : Passage :=
  match p.fault with
  | none => next p.text
  | some _ => p

theorem Passage.andThen_none {p : Passage} {next : List Char → Passage} (h : p.fault = none) :
    p.andThen next = next p.text := by
  simp only [andThen, h]

theorem Passage.andThen_some {p : Passage} {next : List Char → Passage} {f : Fault}
    (h : p.fault = some f) : p.andThen next = p := by
  simp only [andThen, h]

/-- If there was no fault in the end, there was none in either step. -/
theorem Passage.fault_andThen {p : Passage} {next : List Char → Passage}
    (h : (p.andThen next).fault = none) : p.fault = none ∧ (next p.text).fault = none := by
  cases hf : p.fault with
  | none =>
    rw [andThen_none hf] at h
    exact ⟨rfl, h⟩
  | some f =>
    rw [andThen_some hf, hf] at h
    cases h

mutual

/-- A text and after it the layout of a tree whose top stands at this level. -/
def laidOut (o : LayoutOptions) (level : Nat) : Rose Content → List Char → Passage
  | .node .document below, text => laidOutAll o level below text
  | .node (.element e) below, text =>
    if Tag.isVoid e.tag then ⟨opened o e level text, none⟩
    else
      (if Tag.isLiteral e.tag then ⟨opened o e level text, none⟩ ++ literalMarkupAll below
        else laidOutAll o (level + 1) below (opened o e level text)).andThen
          fun text => ⟨closed o e level text, none⟩
  | .node (.text data) _, text => ⟨margined o level text ++ escaped data, none⟩
  | .node (.comment data) _, text => ⟨margined o level text ++ commentMarkup data, none⟩
  | .node (.doctype d) _, text => ⟨lineEnded (text ++ d.markup), none⟩
  | .node (.raw data) _, text => ⟨text ++ data.toList, none⟩
  | .node .error _, text => ⟨text, some .errorNode⟩

/-- A text and after it the layouts of trees in order. -/
def laidOutAll (o : LayoutOptions) (level : Nat) : List (Rose Content) → List Char → Passage
  | [], text => ⟨text, none⟩
  | r :: rest, text => (laidOut o level r text).andThen (laidOutAll o level rest)

end

section

variable {o : LayoutOptions} {level : Nat} {e : Element} {below : List (Rose Content)}

theorem laidOut_void (hv : Tag.isVoid e.tag) : laidOut o level (.node (.element e) below) =
    fun text => ⟨opened o e level text, none⟩ := by
  funext text
  rw [laidOut, if_pos hv]

theorem laidOut_literal (hv : ¬ Tag.isVoid e.tag) (hl : Tag.isLiteral e.tag) :
    laidOut o level (.node (.element e) below) = fun text =>
      (⟨opened o e level text, none⟩ ++ literalMarkupAll below : Passage).andThen
        fun text => ⟨closed o e level text, none⟩ := by
  funext text
  rw [laidOut, if_neg hv, if_pos hl]

theorem laidOut_element (hv : ¬ Tag.isVoid e.tag) (hl : ¬ Tag.isLiteral e.tag) :
    laidOut o level (.node (.element e) below) = fun text =>
      (laidOutAll o (level + 1) below (opened o e level text)).andThen
        fun text => ⟨closed o e level text, none⟩ := by
  funext text
  rw [laidOut, if_neg hv, if_neg hl]

end

/-- A whole layout, with its last line ended if that is asked for. -/
def layoutOf (o : LayoutOptions) (r : Rose Content) : Passage :=
  (laidOut o o.level.toNat r []).andThen
    fun text => ⟨if o.trailingNewline then lineEnded text else text, none⟩

/-! ## Pages -/

theorem lineBegins_append_singleton (text : List Char) (c : Char) :
    lineBegins (text ++ [c]) = (c == '\n') := by
  rw [lineBegins, List.getLast?_concat]

theorem lineBegins_lineEnded (text : List Char) : lineBegins (lineEnded text) = true := by
  rw [lineEnded]
  split
  · next h => exact h
  · rw [lineBegins_append_singleton]
    rfl

/-- Behind a margin that is not empty no line begins, so there is no second margin. -/
theorem margined_margin (o : LayoutOptions) (level : Nat) (text : List Char) :
    margined o level (text ++ margin o level) = text ++ margin o level := by
  rw [margined, margin]
  cases level * o.width.toNat % UInt64.size with
  | zero => simp
  | succ n =>
    rw [List.replicate_succ', ← List.append_assoc, lineBegins_append_singleton]
    rfl

/-- The page holds this text, and its flag tells whether a line begins there. -/
def Page.Shows (p : Page) (text : List Char) : Prop :=
  joined p.writes.toList = text ∧ p.atLineStart = lineBegins text

namespace Page.Shows

variable {p : Page} {text : List Char} {o : LayoutOptions} {level : Nat}

theorem start : ({} : Page).Shows [] := ⟨rfl, rfl⟩

theorem write (h : p.Shows text) (s : String) : (p.write s).Shows (text ++ s.toList) := by
  obtain ⟨hw, hf⟩ := h
  refine ⟨by simp [Page.write, hw], ?_⟩
  simp only [Page.write, lineBegins, List.getLast?_append]
  cases s.toList.getLast? with
  | none => exact hf
  | some c => rfl

theorem writeAll : ∀ {p : Page} {text : List Char} (writes : List String),
    p.Shows text → (p.writeAll writes).Shows (text ++ joined writes)
  | _, _, [], h => by rw [joined_nil, List.append_nil]; exact h
  | _, _, s :: writes, h => by
    rw [joined_cons, ← List.append_assoc]
    exact writeAll writes (h.write s)

theorem endLine (h : p.Shows text) : p.endLine.Shows (lineEnded text) := by
  rw [Page.endLine, lineEnded, h.2]
  split
  · exact h
  · exact h.write "\n"

theorem indent (h : p.Shows text) :
    (p.indent o (.ofNat level)).Shows (text ++ margin o level) := by
  rw [← toList_indentation]
  exact h.write _

theorem indentAtLineStart (h : p.Shows text) :
    (p.indentAtLineStart o (.ofNat level)).Shows (margined o level text) := by
  rw [Page.indentAtLineStart, margined, h.2]
  split
  · exact h.indent
  · exact h

theorem passage (h : p.Shows text) (fault : Option Fault) :
    (p.output fault).passage = ⟨text, fault⟩ := by
  rw [Output.passage, Page.output, h.1]

end Page.Shows

/-! ## Tags on a page -/

theorem joined_bareAttribute (a : Attribute) : joined a.bareWrites = a.bareMarkup := by
  rw [Attribute.bareWrites, Attribute.bareMarkup]
  by_cases h : a.value = "" <;> simp [h, toList_escape]

theorem joined_bareAttributes : ∀ as : List Attribute,
    joined (as.flatMap Attribute.bareWrites) = as.flatMap Attribute.bareMarkup
  | [] => rfl
  | a :: as => by
    rw [List.flatMap_cons, List.flatMap_cons, joined_append, joined_bareAttribute,
      joined_bareAttributes as]

theorem joined_bareTag (e : Element) :
    joined (["<", e.name] ++ e.attributes.flatMap Attribute.bareWrites ++ [">"]) =
      e.bareMarkup := by
  rw [joined_append, joined_append, joined_bareAttributes, Element.bareMarkup]
  simp

namespace Layout

variable {t : Tree} {kids : NodeId → List NodeId} {o : LayoutOptions} {level : Nat} {p : Page}
  {text : List Char}

theorem shows_openTag (o : LayoutOptions) (level : Nat) (h : p.Shows text) (e : Element) :
    (openTag o e (.ofNat level) p).Shows (opened o e level text) := by
  rw [openTag, opened, ← joined_bareTag]
  by_cases hb : Tag.isBlock e.tag
  · simp only [hb, if_true]
    exact (h.endLine.indentAtLineStart.writeAll _).write "\n"
  · simp only [hb, if_false, Bool.false_eq_true]
    exact h.indentAtLineStart.writeAll _

theorem shows_closeTag (h : p.Shows text) (e : Element) :
    (closeTag o e.name (.ofNat level) (Tag.isBlock e.tag) p).Shows (closed o e level text) := by
  rw [closeTag, closed, ← joined_endTag]
  by_cases hb : Tag.isBlock e.tag
  · simp only [hb, if_true]
    rw [← margined_margin]
    exact h.endLine.indent.indentAtLineStart.writeAll _
  · simp only [hb, if_false, Bool.false_eq_true]
    exact h.indentAtLineStart.writeAll _

/-! ## What tasks make of a page -/

/-- In at most `n` rounds the tasks make of a page what `change` makes of its text, and then the
writer goes on to the tasks behind them, unless a fault has stopped it. -/
def Lays (t : Tree) (o : LayoutOptions) (n : Nat) (tasks : List Task)
    (change : List Char → Passage) : Prop :=
  ∀ text p, Page.Shows p text → ∃ rounds ≤ n, ∃ p', Page.Shows p' (change text).text ∧
    ∀ fuel rest, run t o (rounds + fuel) (tasks ++ rest) p =
      match (change text).fault with
      | none => run t o fuel rest p'
      | some f => (p', some f)

theorem Lays.nil : Lays t o 0 [] (⟨·, none⟩) :=
  fun _ p h => ⟨0, Nat.le_refl 0, p, h, fun fuel rest => by rw [Nat.zero_add]; rfl⟩

theorem Lays.mono {n m : Nat} {tasks : List Task} {f : List Char → Passage}
    (h : Lays t o n tasks f) (hnm : n ≤ m) : Lays t o m tasks f := fun text p hs =>
  have ⟨rounds, hn, h⟩ := h text p hs
  ⟨rounds, Nat.le_trans hn hnm, h⟩

/-- Tasks after tasks make their changes one after another. -/
theorem Lays.append {n m : Nat} {ts us : List Task} {f g : List Char → Passage}
    (hf : Lays t o n ts f) (hg : Lays t o m us g) :
    Lays t o (n + m) (ts ++ us) fun text => (f text).andThen g := by
  intro text p hs
  obtain ⟨k, hk, q, hq, hrun⟩ := hf text p hs
  cases e : (f text).fault with
  | none =>
    obtain ⟨l, hl, r, hr, hrun'⟩ := hg _ q hq
    simp only [Passage.andThen_none e]
    refine ⟨k + l, Nat.add_le_add hk hl, r, hr, fun fuel rest => ?_⟩
    rw [List.append_assoc, Nat.add_assoc, hrun, e]
    exact hrun' fuel rest
  | some fault =>
    simp only [Passage.andThen_some e]
    refine ⟨k, Nat.le_add_right_of_le hk, q, hq, fun fuel rest => ?_⟩
    rw [List.append_assoc, hrun, e]

/-- A task that changes the page and leaves other tasks. -/
theorem Lays.step {n : Nat} {task : Task} {tasks : List Task} {f : List Char → List Char}
    {g : List Char → Passage} (h : Lays t o n tasks g) (change : Page → Page)
    (hshows : ∀ {p text}, Page.Shows p text → (change p).Shows (f text))
    (hstep : ∀ fuel rest p, run t o (fuel + 1) (task :: rest) p =
      run t o fuel (tasks ++ rest) (change p)) :
    Lays t o (n + 1) [task] fun text => g (f text) := by
  intro text p hs
  obtain ⟨k, hk, q, hq, hrun⟩ := h _ _ (hshows hs)
  refine ⟨k + 1, Nat.succ_le_succ hk, q, hq, fun fuel rest => ?_⟩
  rw [Nat.add_right_comm, List.singleton_append, hstep, hrun]

/-- A task that only changes the page. -/
theorem Lays.leaf {task : Task} {f : List Char → List Char} (change : Page → Page)
    (hshows : ∀ {p text}, Page.Shows p text → (change p).Shows (f text))
    (hstep : ∀ fuel rest p, run t o (fuel + 1) (task :: rest) p = run t o fuel rest (change p)) :
    Lays t o 1 [task] fun text => ⟨f text, none⟩ :=
  Lays.nil.step change hshows hstep

theorem lays_close (level : Nat) (e : Element) :
    Lays t o 1 [.close e.name (.ofNat level) (Tag.isBlock e.tag)]
      fun text => ⟨closed o e level text, none⟩ :=
  Lays.leaf _ (fun h => shows_closeTag h e) fun _ _ _ => rfl

/-- Nodes one after another, if each of them is laid out as the tree below it. -/
theorem lays_nodes : ∀ ids : List NodeId,
    (∀ id ∈ ids, Lays t o (2 * (t.rose id).toList.length) [.node id (.ofNat level)]
      (laidOut o level (t.shape id))) →
    Lays t o (2 * (ids.flatMap fun id => (t.rose id).toList).length)
      (ids.map (.node · (.ofNat level))) (laidOutAll o level (ids.map t.shape))
  | [], _ => Lays.nil
  | id :: ids, h => by
    rw [List.flatMap_cons, List.length_append, Nat.mul_add, List.map_cons, List.map_cons]
    exact Lays.append (h id List.mem_cons_self)
      (lays_nodes ids fun x hx => h x (List.mem_cons_of_mem _ hx))

theorem tasksBelow_eq (h : t.Linked kids) (id : NodeId) (level : UInt64) :
    tasksBelow t id level = (t.children id).map (.node · level) := by
  rw [tasksBelow, h.childrenOnto_eq, List.filter_true, List.append_nil]

theorem literalMarkup_of_not_text (h : t.Linked kids) {id : NodeId}
    (hc : ∀ data, t.content? id ≠ some (.text data)) :
    literalMarkup (t.shape id) = markupOf false (t.shape id) := by
  cases hd : t.content? id with
  | none =>
    rw [h.shape_of_none hd]
    rfl
  | some content =>
    rw [h.shape_of_content? hd]
    cases content with
    | text data => exact absurd hd (hc data)
    | _ => rfl

theorem literalChildren_of_not_text {id : NodeId} (hc : ∀ data, t.content? id ≠ some (.text data))
    (ids : List NodeId) (p : Page) : literalChildren t (id :: ids) p =
      match embed t id p with
      | (p, none) => literalChildren t ids p
      | (p, some f) => (p, some f) := by
  rw [literalChildren]
  split
  · next data e => exact absurd e (hc data)
  · rfl

/-- The children of an element with literal content, on the page and as a passage. -/
theorem shows_literalChildren (h : t.Linked kids) : ∀ (ids : List NodeId) {p : Page}
    {text : List Char}, p.Shows text →
      ∃ q, q.Shows (text ++ (literalMarkupAll (ids.map t.shape)).text) ∧
        literalChildren t ids p = (q, (literalMarkupAll (ids.map t.shape)).fault)
  | [], p, _, hs => ⟨p, by rwa [List.map_nil, literalMarkupAll, List.append_nil], rfl⟩
  | id :: ids, p, text, hs => by
    rw [List.map_cons, literalMarkupAll]
    by_cases htext : ∃ data, t.content? id = some (.text data)
    · obtain ⟨data, hc⟩ := htext
      obtain ⟨q, hq, e⟩ := shows_literalChildren h ids (hs.write data)
      rw [h.shape_of_content? hc, literalMarkup, Passage.mk_none_append]
      refine ⟨q, by rwa [← List.append_assoc], ?_⟩
      rw [← e]
      simp only [literalChildren, hc]
    · have hc : ∀ data, t.content? id ≠ some (.text data) := fun data e => htext ⟨data, e⟩
      have hm : literalMarkup (t.shape id) = (t.markup id).passage := by
        rw [h.markup_passage, literalMarkup_of_not_text h hc]
      have hpage := hs.writeAll (t.markup id).writes.toList
      rw [literalChildren_of_not_text hc, hm, Output.passage, embed]
      cases hf : (t.markup id).fault with
      | none =>
        obtain ⟨q, hq, e⟩ := shows_literalChildren h ids hpage
        rw [Passage.mk_none_append]
        exact ⟨q, by rwa [← List.append_assoc], e⟩
      | some f => exact ⟨_, hpage, rfl⟩

theorem lays_void {id : NodeId} {e : Element} (hc : t.content? id = some (.element e))
    (hv : Tag.isVoid e.tag) (below : List (Rose Content)) :
    Lays t o 1 [.node id (.ofNat level)] (laidOut o level (.node (.element e) below)) := by
  rw [laidOut_void hv]
  refine Lays.leaf (openTag o e (.ofNat level)) (fun hs => shows_openTag o level hs e)
    fun fuel rest p => ?_
  simp only [run, hc, hv, if_true]

theorem lays_literal (h : t.Linked kids) {id : NodeId} {e : Element}
    (hc : t.content? id = some (.element e)) (hv : ¬ Tag.isVoid e.tag)
    (hl : Tag.isLiteral e.tag) : Lays t o 1 [.node id (.ofNat level)]
      (laidOut o level (.node (.element e) ((t.children id).map t.shape))) := by
  rw [laidOut_literal hv hl]
  intro text p hs
  obtain ⟨q, hq, e'⟩ := shows_literalChildren h (t.children id)
    (shows_openTag o level hs e)
  generalize literalMarkupAll ((t.children id).map t.shape) = below at hq e'
  obtain ⟨inner, _ | f⟩ := below
  · have hstep : ∀ fuel rest, run t o (fuel + 1) (.node id (.ofNat level) :: rest) p =
        run t o fuel rest (closeTag o e.name (.ofNat level) (Tag.isBlock e.tag) q) := by
      intro fuel rest
      simp only [run, hc, hv, hl, e', if_false, if_true, Bool.false_eq_true]
    refine ⟨1, Nat.le_refl 1, _, shows_closeTag hq e, fun fuel rest => ?_⟩
    rw [Nat.add_comm]
    exact hstep fuel rest
  · have hstep : ∀ fuel rest,
        run t o (fuel + 1) (.node id (.ofNat level) :: rest) p = (q, some f) := by
      intro fuel rest
      simp only [run, hc, hv, hl, e', if_false, if_true, Bool.false_eq_true]
    refine ⟨1, Nat.le_refl 1, q, hq, fun fuel rest => ?_⟩
    rw [Nat.add_comm]
    exact hstep fuel rest

/-- An element is laid out as the tree below it, if its children are. -/
theorem lays_element (h : t.Linked kids) {id : NodeId} {e : Element}
    (hc : t.content? id = some (.element e)) (hv : ¬ Tag.isVoid e.tag)
    (hl : ¬ Tag.isLiteral e.tag) (ih : ∀ c ∈ t.children id, ∀ level,
      Lays t o (2 * (t.rose c).toList.length) [.node c (.ofNat level)]
        (laidOut o level (t.shape c))) :
    Lays t o (2 * (t.rose id).toList.length) [.node id (.ofNat level)]
      (laidOut o level (.node (.element e) ((t.children id).map t.shape))) := by
  have hbelow := (lays_nodes (t.children id) fun c hc => ih c hc (level + 1)).append
    (lays_close level e)
  rw [laidOut_element hv hl, h.toList_rose, List.length_cons, Nat.mul_succ]
  refine hbelow.step (openTag o e (.ofNat level)) (fun hs => shows_openTag o level hs e)
    fun fuel rest p => ?_
  rw [← tasksBelow_eq h, List.append_assoc, UInt64.ofNat_add]
  simp only [run, hc, hv, hl, if_false, Bool.false_eq_true]
  rfl

/-- A node is laid out as the tree below it, by induction on that tree. -/
theorem lays_node (h : t.Linked kids) (id : NodeId) (level : Nat) :
    Lays t o (2 * (t.rose id).toList.length) [.node id (.ofNat level)]
      (laidOut o level (t.shape id)) := by
  induction id using h.induction generalizing level with
  | step id ih =>
    have hpos := h.length_rose_pos id
    have hone : 1 ≤ 2 * (t.rose id).toList.length := by omega
    cases hc : t.content? id with
    | none =>
      rw [h.shape_of_none hc]
      refine (Lays.leaf (fun p => p) (fun hs => hs) fun fuel rest p => ?_).mono hone
      simp only [run, hc]
    | some content =>
      rw [h.shape_of_content? hc]
      cases content with
      | document =>
        rw [h.toList_rose, List.length_cons, Nat.mul_succ]
        refine ((lays_nodes (t.children id) fun c hc => ih c hc level).step (fun p => p)
          (fun hs => hs) fun fuel rest p => ?_).mono (Nat.le_succ _)
        rw [← tasksBelow_eq h]
        simp only [run, hc]
      | element e =>
        by_cases hv : Tag.isVoid e.tag
        · exact (lays_void hc hv _).mono hone
        by_cases hl : Tag.isLiteral e.tag
        · exact (lays_literal h hc hv hl).mono hone
        · exact lays_element h hc hv hl ih
      | text data =>
        refine (Lays.leaf
          (fun p => (p.indentAtLineStart o (.ofNat level)).write (Reference.escape data))
          (fun hs => ?_) fun fuel rest p => ?_).mono hone
        · rw [← toList_escape]
          exact hs.indentAtLineStart.write _
        · simp only [run, hc]
      | comment data =>
        refine (Lays.leaf
          (fun p => (p.indentAtLineStart o (.ofNat level)).writeAll (commentWrites data))
          (fun hs => ?_) fun fuel rest p => ?_).mono hone
        · rw [← joined_comment]
          exact hs.indentAtLineStart.writeAll _
        · simp only [run, hc]
      | doctype d =>
        refine (Lays.leaf (fun p => (p.writeAll d.writes).endLine)
          (fun hs => ?_) fun fuel rest p => ?_).mono hone
        · rw [← joined_doctype]
          exact (hs.writeAll _).endLine
        · simp only [run, hc]
      | raw data =>
        refine (Lays.leaf (fun p => p.write data) (fun hs => hs.write data)
          fun fuel rest p => ?_).mono hone
        simp only [run, hc]
      | error =>
        refine fun text p hs => ⟨1, hone, p, hs, fun fuel rest => ?_⟩
        rw [Nat.add_comm, List.singleton_append]
        simp only [run, hc]
        rfl

theorem run_nil (t : Tree) (o : LayoutOptions) (fuel : Nat) (p : Page) :
    run t o fuel [] p = (p, none) := by
  cases fuel <;> rfl

end Layout

/-- The whole run lays out the tree at and below the node. -/
theorem Tree.Linked.layout_passage {t : Tree} {kids : NodeId → List NodeId} (h : t.Linked kids)
    (o : LayoutOptions) (id : NodeId) : (t.layout o id).passage = layoutOf o (t.shape id) := by
  obtain ⟨rounds, hr, p, hp, hrun⟩ :=
    Layout.lays_node (o := o) h id o.level.toNat [] {} Page.Shows.start
  have hle := h.length_rose_le id
  have hfuel : 2 * t.size = rounds + (2 * t.size - rounds) := by omega
  replace hrun := hrun (2 * t.size - rounds) []
  rw [← hfuel, List.append_nil, UInt64.ofNat_toNat] at hrun
  rw [Tree.layout, hrun, layoutOf]
  cases hf : (laidOut o o.level.toNat (t.shape id) []).fault with
  | none =>
    rw [Passage.andThen_none hf, Layout.run_nil]
    by_cases ht : o.trailingNewline
    · simp only [ht, if_true]
      exact hp.endLine.passage none
    · simp only [ht, if_false, Bool.false_eq_true]
      exact hp.passage none
  | some f =>
    rw [Passage.andThen_some hf]
    refine (hp.passage (some f)).trans ?_
    rw [← hf]

/-- The layout of a node of a tree that can be built is the recursive layout of the tree below
it: the same text, up to the same fault. The margin of a level has `level * width` spaces, as long
as a word can hold this number. -/
theorem layout_eq_layoutOf {t : Tree} (ht : t.Reachable) (o : LayoutOptions) (id : NodeId) :
    (t.layout o id).text = String.ofList (layoutOf o (t.shape id)).text ∧
      (t.layout o id).fault = (layoutOf o (t.shape id)).fault ∧
      ∀ level, level * o.width.toNat < UInt64.size →
        margin o level = List.replicate (level * o.width.toNat) ' ' := by
  rw [← ht.linked.layout_passage, Output.text_eq]
  exact ⟨rfl, rfl, fun _ => margin_of_lt⟩

/-- A document with a list of one item, and an empty text behind the list. -/
def shortList : Tree :=
  (Tree.single .document).run
    [.addChild 0 (.element (.named "ul" [])), .addChild 1 (.element (.named "li" [])),
      .addChild 2 (.text "a < b"), .addChild 0 (.text "")]

theorem layout_shortList : shortList.Reachable ∧
    (shortList.layout {} Tree.root).text = "<ul>\n  <li>\n    a &lt; b\n  </li>\n</ul>" ∧
    (shortList.layout {} Tree.root).fault = none := by
  have ht : shortList.Reachable := ⟨_, _, rfl⟩
  obtain ⟨htext, hfault, -⟩ := layout_eq_layoutOf ht {} Tree.root
  refine ⟨ht, htext.trans ?_, hfault.trans ?_⟩
  · decide +kernel
  · decide +kernel

end Hypertext
