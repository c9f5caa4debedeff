import Hypertext.Proofs.Reference.Escape
import Hypertext.Proofs.Tree.Rose
import Hypertext.Proofs.Writer.Passage
import Hypertext.Writer.Markup

/-!
# Markup, tree by tree

The markup of a tree of contents by recursion on the tree (`markupOf`): an element is its start
tag, the markup of its children in order, and its end tag.

The writer of markup keeps a list of tasks instead. `Markup.Writes` says what some tasks write,
whatever tasks follow them; `Markup.writes_node` says it of a node, by induction on the tree
below it, and `Linked.markup_passage` of a whole run.
-/

namespace Hypertext

/-! ## By recursion on the tree -/

/-- An attribute in a start tag. -/
def Attribute.markup (a : Attribute) : List Char :=
  ' ' :: a.key.toList ++ "=\"".toList ++ escaped a.value ++ ['"']

/-- A start tag up to its end. -/
def Element.startMarkup (e : Element) : List Char :=
  '<' :: e.name.toList ++ e.attributes.flatMap Attribute.markup

/-- An end tag; plain text has none, for nothing can end it. -/
def Element.endMarkup (e : Element) : List Char :=
  if e.tag = some .plaintext then [] else '<' :: '/' :: e.name.toList ++ ['>']

/-- The identifiers of a document type declaration. -/
def Doctype.idMarkup (d : Doctype) : List Char :=
  if d.publicId ≠ "" then
    ' ' :: "PUBLIC ".toList ++ (quotedId d.publicId).toList
      ++ if d.systemId ≠ "" then ' ' :: (quotedId d.systemId).toList else []
  else if d.systemId ≠ "" then ' ' :: "SYSTEM ".toList ++ (quotedId d.systemId).toList
  else []

/-- A document type declaration. -/
def Doctype.markup (d : Doctype) : List Char :=
  '<' :: "!DOCTYPE ".toList ++ d.name.toList ++ d.idMarkup ++ ['>']

/-- A comment. -/
def commentMarkup (data : String) : List Char :=
  '<' :: "!--".toList ++ data.toList ++ "-->".toList

/-- Whether trees in order begin with a text that begins with a newline. -/
def beginsWithNewline : List (Rose Content) → Bool
  | .node (.text data) _ :: _ => data.toList.head? == some '\n'
  | _ => false

/-- The newline that is written for readers to drop, in front of one that they have to keep. -/
def Element.spareNewline (e : Element) (below : List (Rose Content)) : List Char :=
  if dropsFirstNewline e.tag && beginsWithNewline below then ['\n'] else []

mutual

/-- The markup of a tree. -/
def markupOf (literal : Bool) : Rose Content → Passage
  | .node .document below => markupOfAll false below
  | .node (.element e) below =>
    ⟨e.startMarkup, none⟩ ++
      if Tag.isVoid e.tag then
        if below.isEmpty then ⟨"/>".toList, none⟩ else ⟨[], some (.voidElementChildren e.name)⟩
      else
        ⟨'>' :: e.spareNewline below, none⟩ ++
          (markupOfAll (Tag.isLiteral e.tag) below ++ ⟨e.endMarkup, none⟩)
  | .node (.text data) _ => ⟨if literal then data.toList else escaped data, none⟩
  | .node (.comment data) _ => ⟨commentMarkup data, none⟩
  | .node (.doctype d) _ => ⟨d.markup, none⟩
  | .node (.raw data) _ => ⟨data.toList, none⟩
  | .node .error _ => ⟨[], some .errorNode⟩

/-- The markup of trees in order. -/
def markupOfAll (literal : Bool) : List (Rose Content) → Passage
  | [] => ⟨[], none⟩
  | r :: rest => markupOf literal r ++ markupOfAll literal rest

end

/-! ## The writes of the writer -/

theorem joined_attribute (a : Attribute) : joined a.writes = a.markup := by
  simp [Attribute.writes, Attribute.markup, toList_escape]

theorem joined_attributes : ∀ as : List Attribute,
    joined (as.flatMap Attribute.writes) = as.flatMap Attribute.markup
  | [] => rfl
  | a :: as => by
    rw [List.flatMap_cons, List.flatMap_cons, joined_append, joined_attribute,
      joined_attributes as]

theorem joined_openWrites (e : Element) : joined e.openWrites = e.startMarkup := by
  rw [Element.openWrites, joined_append, joined_attributes, Element.startMarkup]
  simp

theorem joined_doctype (d : Doctype) : joined d.writes = d.markup := by
  rw [Doctype.writes, Doctype.markup, Doctype.idMarkup]
  generalize quotedId d.publicId = publicId
  generalize quotedId d.systemId = systemId
  by_cases hp : d.publicId = "" <;> by_cases hs : d.systemId = "" <;> simp [hp, hs]

theorem joined_comment (data : String) : joined (commentWrites data) = commentMarkup data := by
  simp [commentWrites, commentMarkup]

theorem joined_endTag (name : String) :
    joined (endTagWrites name) = '<' :: '/' :: name.toList ++ ['>'] := by
  simp [endTagWrites]

namespace Markup

variable {t : Tree} {kids : NodeId → List NodeId}

/-- In at most `n` rounds the tasks write the passage, and then the writer goes on to the tasks
behind them, unless a fault has stopped it. -/
def Writes (t : Tree) (n : Nat) (tasks : List Task) (passage : Passage) : Prop :=
  ∃ rounds ≤ n, ∃ writes : List String, joined writes = passage.text ∧
    ∀ fuel rest before, run t (rounds + fuel) (tasks ++ rest) before =
      match passage.fault with
      | none => run t fuel rest (before ++ writes)
      | some f => { writes := before ++ writes, fault := some f }

theorem Writes.nil : Writes t 0 [] ⟨[], none⟩ :=
  ⟨0, Nat.le_refl 0, [], rfl, fun fuel rest before => by simp⟩

theorem Writes.mono {n m : Nat} {tasks : List Task} {p : Passage} (h : Writes t n tasks p)
    (hnm : n ≤ m) : Writes t m tasks p := by
  obtain ⟨rounds, hn, h⟩ := h
  exact ⟨rounds, Nat.le_trans hn hnm, h⟩

/-- Tasks after tasks write passages one after another. -/
theorem Writes.append {n m : Nat} {ts us : List Task} {p q : Passage} (hp : Writes t n ts p)
    (hq : Writes t m us q) : Writes t (n + m) (ts ++ us) (p ++ q) := by
  obtain ⟨k, hk, ws, ew, hw⟩ := hp
  obtain ⟨l, hl, vs, ev, hv⟩ := hq
  obtain ⟨text, _ | f⟩ := p
  · refine ⟨k + l, Nat.add_le_add hk hl, ws ++ vs, ?_, fun fuel rest before => ?_⟩
    · rw [joined_append, ew, ev]; rfl
    · rw [List.append_assoc, Nat.add_assoc, hw, Passage.mk_none_append, append_writes]
      exact hv fuel rest (before ++ ws)
  · refine ⟨k, Nat.le_add_right_of_le hk, ws, ew, fun fuel rest before => ?_⟩
    rw [List.append_assoc, hw]
    rfl

/-- A task that writes something and leaves other tasks. -/
theorem Writes.step {n : Nat} {task : Task} {tasks : List Task} {p : Passage}
    (h : Writes t n tasks p) (ws : List String) (hstep : ∀ fuel rest before,
      run t (fuel + 1) (task :: rest) before = run t fuel (tasks ++ rest) (before ++ ws)) :
    Writes t (n + 1) [task] (⟨joined ws, none⟩ ++ p) := by
  obtain ⟨k, hk, vs, ev, hv⟩ := h
  refine ⟨k + 1, Nat.succ_le_succ hk, ws ++ vs, ?_, fun fuel rest before => ?_⟩
  · rw [joined_append, ev]; rfl
  · rw [Nat.add_right_comm, List.singleton_append, hstep, hv, Passage.mk_none_append,
      append_writes]

/-- A task that only writes something. -/
theorem Writes.leaf {task : Task} (ws : List String) (hstep : ∀ fuel rest before,
    run t (fuel + 1) (task :: rest) before = run t fuel rest (before ++ ws)) :
    Writes t 1 [task] ⟨joined ws, none⟩ := by
  rw [← Passage.append_nil ⟨joined ws, none⟩]
  exact Writes.nil.step ws hstep

/-- A task that writes something and stops the writer. -/
theorem Writes.stop {task : Task} {f : Fault} (ws : List String) (hstep : ∀ fuel rest before,
    run t (fuel + 1) (task :: rest) before = { writes := before ++ ws, fault := some f }) :
    Writes t 1 [task] ⟨joined ws, some f⟩ :=
  ⟨1, Nat.le_refl 1, ws, rfl, fun fuel rest before => by
    rw [Nat.add_comm, List.singleton_append, hstep]⟩

theorem writes_close (name : String) :
    Writes t 1 [.close name] ⟨'<' :: '/' :: name.toList ++ ['>'], none⟩ := by
  rw [← joined_endTag]
  exact Writes.leaf _ fun _ _ _ => rfl

/-- The tasks of an end tag: none where there is no end tag. -/
theorem writes_endTag (e : Element) :
    Writes t 1 (if e.tag = some .plaintext then [] else [.close e.name])
      ⟨e.endMarkup, none⟩ := by
  rw [Element.endMarkup]
  split
  · exact Writes.nil.mono (Nat.zero_le 1)
  · exact writes_close e.name

/-- Nodes one after another, if each of them writes its markup. -/
theorem writes_nodes (literal : Bool) : ∀ ids : List NodeId,
    (∀ id ∈ ids, Writes t (2 * (t.rose id).toList.length) [.node id literal]
      (markupOf literal (t.shape id))) →
    Writes t (2 * (ids.flatMap fun id => (t.rose id).toList).length) (ids.map (.node · literal))
      (markupOfAll literal (ids.map t.shape))
  | [], _ => Writes.nil
  | id :: ids, h => by
    rw [List.flatMap_cons, List.length_append, Nat.mul_add, List.map_cons, List.map_cons,
      markupOfAll]
    exact (h id List.mem_cons_self).append
      (writes_nodes literal ids fun x hx => h x (List.mem_cons_of_mem _ hx))

theorem startsWithNewline_eq (h : t.Linked kids) (id : NodeId) :
    startsWithNewline t id = beginsWithNewline ((t.children id).map t.shape) := by
  rw [startsWithNewline, h.first?_eq, h.children_eq]
  cases kids id with
  | nil => rfl
  | cons c rest =>
    rw [List.head?_cons, Option.bind_some, List.map_cons, h.shape_eq, Tree.contentAt]
    cases t.content? c with
    | none => rfl
    | some content => cases content <;> rfl

theorem isSome_first? (h : t.Linked kids) (id : NodeId) :
    (t.first? id).isSome = !((t.children id).map t.shape).isEmpty := by
  rw [h.first?_eq, h.children_eq]
  cases kids id <;> rfl

theorem tasksBelow_eq (h : t.Linked kids) (id : NodeId) (literal : Bool) :
    tasksBelow t id literal = (t.children id).map (.node · literal) := by
  rw [tasksBelow, h.childrenOnto_eq, List.filter_true, List.append_nil]

/-- A void element writes its start tag, unless it has children. -/
theorem writes_void (h : t.Linked kids) {id : NodeId} {e : Element} (literal : Bool)
    (hc : t.content? id = some (.element e)) (hv : Tag.isVoid e.tag) :
    Writes t 1 [.node id literal]
      (markupOf literal (.node (.element e) ((t.children id).map t.shape))) := by
  rw [markupOf, if_pos hv, ← joined_openWrites]
  have hfirst := isSome_first? h id
  cases hb : ((t.children id).map t.shape).isEmpty with
  | false =>
    rw [if_neg Bool.false_ne_true, Passage.mk_none_append, List.append_nil]
    refine Writes.stop _ fun fuel rest before => ?_
    simp only [run, hc, hv, hfirst, hb, Bool.not_false, if_true]
  | true =>
    have e : (⟨joined e.openWrites, none⟩ : Passage) ++ ⟨"/>".toList, none⟩ =
        ⟨joined (e.openWrites ++ ["/>"]), none⟩ := by simp
    rw [if_pos rfl, e]
    refine Writes.leaf _ fun fuel rest before => ?_
    simp [run, hc, hv, hfirst, hb, append_writes]

/-- An element writes its start tag, its children and its end tag, if its children write their
markup. -/
theorem writes_element (h : t.Linked kids) {id : NodeId} {e : Element} (literal : Bool)
    (hc : t.content? id = some (.element e)) (hv : ¬ Tag.isVoid e.tag)
    (ih : ∀ c ∈ t.children id, ∀ literal, Writes t (2 * (t.rose c).toList.length)
      [.node c literal] (markupOf literal (t.shape c))) :
    Writes t (2 * (t.rose id).toList.length) [.node id literal]
      (markupOf literal (.node (.element e) ((t.children id).map t.shape))) := by
  have hbelow := (writes_nodes (Tag.isLiteral e.tag) (t.children id) fun c hc => ih c hc _).append
    (writes_endTag e)
  have hstart : joined (e.openWrites ++ [">"] ++
      if dropsFirstNewline e.tag && startsWithNewline t id then ["\n"] else []) =
        e.startMarkup ++ '>' :: e.spareNewline ((t.children id).map t.shape) := by
    rw [startsWithNewline_eq h, Element.spareNewline, joined_append, joined_append,
      joined_openWrites, List.append_assoc]
    split <;> rfl
  rw [h.toList_rose, List.length_cons, Nat.mul_succ, markupOf, if_neg hv, ← Passage.append_assoc,
    Passage.mk_none_append, ← hstart]
  refine hbelow.step _ fun fuel rest before => ?_
  rw [← tasksBelow_eq h]
  simp only [run, hc, hv, Bool.false_eq_true, if_false, append_writes]
  cases dropsFirstNewline e.tag && startsWithNewline t id <;> simp

/-- A node writes its markup, by induction on the tree below it. -/
theorem writes_node (h : t.Linked kids) (id : NodeId) (literal : Bool) :
    Writes t (2 * (t.rose id).toList.length) [.node id literal]
      (markupOf literal (t.shape id)) := by
  induction id using h.induction generalizing literal with
  | step id ih =>
    have hpos := h.length_rose_pos id
    have hone : 1 ≤ 2 * (t.rose id).toList.length := by omega
    cases hc : t.content? id with
    | none =>
      rw [h.shape_of_none hc, markupOf]
      exact (Writes.leaf [] fun fuel rest before => by simp [run, hc]).mono hone
    | some content =>
      rw [h.shape_of_content? hc]
      cases content with
      | document =>
        have hbelow := writes_nodes false (t.children id) fun c hc => ih c hc false
        rw [markupOf, h.toList_rose, List.length_cons, Nat.mul_succ]
        refine (hbelow.step [] fun fuel rest before => ?_).mono (Nat.le_succ _)
        simp [run, hc, tasksBelow_eq h]
      | element e =>
        by_cases hv : Tag.isVoid e.tag
        · exact (writes_void h literal hc hv).mono hone
        · exact writes_element h literal hc hv ih
      | text data =>
        have e : joined [if literal then data else Reference.escape data] =
            if literal then data.toList else escaped data := by
          cases literal <;> simp [toList_escape]
        rw [markupOf, ← e]
        exact (Writes.leaf _ fun fuel rest before => by simp [run, hc]).mono hone
      | comment data =>
        rw [markupOf, ← joined_comment]
        exact (Writes.leaf _ fun fuel rest before => by simp [run, hc]).mono hone
      | doctype d =>
        rw [markupOf, ← joined_doctype]
        exact (Writes.leaf _ fun fuel rest before => by simp [run, hc]).mono hone
      | raw data =>
        have e : joined [data] = data.toList := List.append_nil _
        rw [markupOf, ← e]
        exact (Writes.leaf _ fun fuel rest before => by simp [run, hc]).mono hone
      | error =>
        exact (Writes.stop [] fun fuel rest before => by simp [run, hc]).mono hone

end Markup

theorem Markup.run_nil (t : Tree) (fuel : Nat) (writes : Array String) :
    run t fuel [] writes = { writes } := by
  cases fuel <;> rfl

/-- The whole run writes the markup of the tree at and below the node. -/
theorem Tree.Linked.markup_passage {t : Tree} {kids : NodeId → List NodeId} (h : t.Linked kids)
    (id : NodeId) : (t.markup id).passage = markupOf false (t.shape id) := by
  obtain ⟨rounds, hr, writes, ew, hw⟩ := Markup.writes_node h id false
  have hle := h.length_rose_le id
  have hfuel : 2 * t.size = rounds + (2 * t.size - rounds) := by omega
  have hrun := hw (2 * t.size - rounds) [] #[]
  rw [← hfuel, List.append_nil] at hrun
  rw [Tree.markup, hrun]
  generalize markupOf false (t.shape id) = p at ew
  obtain ⟨text, _ | f⟩ := p
  · subst ew
    simp [Markup.run_nil, Output.passage]
  · subst ew
    simp [Output.passage]

end Hypertext
