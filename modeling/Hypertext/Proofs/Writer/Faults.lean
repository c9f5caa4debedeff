import Hypertext.Proofs.Tree.Reached
import Hypertext.Proofs.Writer.Markup

/-!
# Where markup stops

Markup is written on the way through a tree in document order, which leads into every node and,
behind the nodes below it, out of it again (`Tree.turns`). It does not go below leaves, and the
tag of a void element makes it one. Each turn writes its own part (`Tree.written`), and at some
nodes there is none to write (`Tree.faultAt`).

* `Linked.passage_turns`: the markup of a tree is what the turns write up to the first fault.
* `Linked.lists_visited`: the turns lead into the nodes that have no leaf strictly above them.
* `markup_interrupted`: a writer reports the first fault, and has then written what comes before
  it in document order.
-/

namespace Hypertext

/-- Whether nothing below a node with this content is written. -/
def Content.isLeaf : Content → Bool
  | .document => false
  | .element e => Tag.isVoid e.tag
  | _ => true

/-- Whether the text directly below a node with this content is written as it stands. -/
def Content.isLiteral : Content → Bool
  | .element e => Tag.isLiteral e.tag
  | _ => false

/-- A turn on the way through a tree: into a node, with the information whether its text is
literal, or out of a node. -/
inductive Turn where
  | enter (id : NodeId) (literal : Bool)
  | leave (id : NodeId)

/-- The node that a turn leads into. -/
def Turn.entered? : Turn → Option NodeId
  | .enter id _ => some id
  | .leave _ => none

/-- The nodes that a way leads into, in order. -/
def entered (turns : List Turn) : List NodeId :=
  turns.filterMap Turn.entered?

@[simp] theorem entered_nil : entered [] = [] := rfl

@[simp] theorem entered_enter (id : NodeId) (literal : Bool) (turns : List Turn) :
    entered (.enter id literal :: turns) = id :: entered turns := rfl

@[simp] theorem entered_leave (id : NodeId) (turns : List Turn) :
    entered (.leave id :: turns) = entered turns := rfl

@[simp] theorem entered_append (turns turns' : List Turn) :
    entered (turns ++ turns') = entered turns ++ entered turns' :=
  List.filterMap_append

namespace Rose

mutual

/-- The way through a tree of nodes with these contents. -/
def turns (content : NodeId → Content) (literal : Bool) : Rose NodeId → List Turn
  | .node id below =>
    .enter id literal ::
      if (content id).isLeaf then []
      else turnsAll content (content id).isLiteral below ++ [.leave id]

/-- The way through trees in order. -/
def turnsAll (content : NodeId → Content) (literal : Bool) : List (Rose NodeId) → List Turn
  | [] => []
  | r :: rest => turns content literal r ++ turnsAll content literal rest

end

theorem turnsAll_eq (content : NodeId → Content) (literal : Bool) : ∀ rs : List (Rose NodeId),
    turnsAll content literal rs = rs.flatMap (turns content literal)
  | [] => rfl
  | r :: rest => by rw [turnsAll, turnsAll_eq content literal rest, List.flatMap_cons]

/-- The way leads into the nodes that a walk meets which does not go below leaves. -/
theorem entered_turns (content : NodeId → Content) (r : Rose NodeId) (literal : Bool) :
    entered (r.turns content literal) = r.reached fun id => (content id).isLeaf := by
  induction r generalizing literal with
  | node id below ih =>
    have hbelow : ∀ literal, entered (below.flatMap (turns content literal)) =
        below.flatMap (reached fun id => (content id).isLeaf) := by
      intro literal
      rw [entered, List.filterMap_flatMap]
      exact List.flatMap_congr fun r hr => ih r hr literal
    rw [turns, turnsAll_eq, reached_node, entered_enter]
    by_cases hleaf : (content id).isLeaf
    · rw [if_pos hleaf, if_pos hleaf, entered_nil]
    · rw [if_neg hleaf, if_neg hleaf, entered_append, hbelow, entered_leave, entered_nil,
        List.append_nil]

end Rose

namespace Tree

/-- The way through the nodes at and below `id`. -/
def turns (t : Tree) (id : NodeId) (literal : Bool := false) : List Turn :=
  (t.rose id).turns t.contentAt literal

/-- The nodes that the way leads into, in order. -/
def visited (t : Tree) (id : NodeId) : List NodeId :=
  entered (t.turns id)

/-- Why a node cannot be written, whatever stands elsewhere in the tree. -/
def faultAt (t : Tree) (id : NodeId) : Option Fault :=
  match t.contentAt id with
  | .error => some .errorNode
  | .element e =>
    if Tag.isVoid e.tag && !(t.children id).isEmpty then some (.voidElementChildren e.name)
    else none
  | _ => none

/-- What is written at a turn. -/
def written (t : Tree) : Turn → List Char
  | .enter id literal =>
    match t.contentAt id with
    | .document => []
    | .element e =>
      e.startMarkup ++ if Tag.isVoid e.tag then "/>".toList
        else '>' :: e.spareNewline ((t.children id).map t.shape)
    | .text data => if literal then data.toList else escaped data
    | .comment data => commentMarkup data
    | .doctype d => d.markup
    | .raw data => data.toList
    | .error => []
  | .leave id =>
    match t.contentAt id with
    | .element e => e.endMarkup
    | _ => []

/-- What is written of a node that has a fault: of an element the start tag up to its end. -/
def unfinished (t : Tree) (id : NodeId) : List Char :=
  match t.contentAt id with
  | .element e => e.startMarkup
  | _ => []

/-! ## The passage along a way -/

/-- What a turn adds to the markup. -/
def turnPassage (t : Tree) : Turn → Passage
  | .enter id literal =>
    match t.faultAt id with
    | none => ⟨t.written (.enter id literal), none⟩
    | some f => ⟨t.unfinished id, some f⟩
  | .leave id => ⟨t.written (.leave id), none⟩

/-- What is written along a way, up to the first fault. -/
def passageAlong (t : Tree) : List Turn → Passage
  | [] => ⟨[], none⟩
  | turn :: rest => t.turnPassage turn ++ t.passageAlong rest

variable {t : Tree} {kids : NodeId → List NodeId} {id : NodeId}

theorem passageAlong_append (t : Tree) : ∀ turns turns' : List Turn,
    t.passageAlong (turns ++ turns') = t.passageAlong turns ++ t.passageAlong turns'
  | [], _ => rfl
  | turn :: turns, turns' => by
    rw [List.cons_append, passageAlong, passageAlong, passageAlong_append t turns turns',
      Passage.append_assoc]

theorem passageAlong_singleton (t : Tree) (turn : Turn) :
    t.passageAlong [turn] = t.turnPassage turn :=
  Passage.append_nil _

/-- A way with a fault, cut at the first node that has one. -/
structure CutAt (t : Tree) (turns before : List Turn) (x : NodeId) (f : Fault) : Prop where
  eq : ∃ literal after, turns = before ++ .enter x literal :: after
  sound : ∀ y ∈ entered before, t.faultAt y = none
  fault : t.faultAt x = some f

/-- A turn without a fault may come in front. -/
theorem CutAt.cons {turn : Turn} {turns before : List Turn} {x : NodeId} {f : Fault}
    (h : t.CutAt turns before x f) (hturn : ∀ y ∈ entered [turn], t.faultAt y = none) :
    t.CutAt (turn :: turns) (turn :: before) x f where
  eq := by
    obtain ⟨literal, after, heq⟩ := h.eq
    exact ⟨literal, after, by rw [heq, List.cons_append]⟩
  sound y hy := by
    rw [← List.singleton_append, entered_append] at hy
    rcases List.mem_append.mp hy with hy | hy
    · exact hturn y hy
    · exact h.sound y hy
  fault := h.fault

/-- What is written along a way ends with the first fault. -/
theorem fault_passageAlong (t : Tree) : ∀ turns : List Turn,
    (t.passageAlong turns).fault = (entered turns).findSome? t.faultAt
  | [] => rfl
  | .enter id literal :: rest => by
    rw [passageAlong, turnPassage, entered_enter, List.findSome?_cons]
    cases t.faultAt id with
    | none => exact fault_passageAlong t rest
    | some f => rfl
  | .leave id :: rest => by
    rw [passageAlong, turnPassage, entered_leave]
    exact fault_passageAlong t rest

/-- Without a fault all turns are written. -/
theorem text_passageAlong : ∀ {turns : List Turn}, (t.passageAlong turns).fault = none →
    (t.passageAlong turns).text = turns.flatMap t.written
  | [], _ => rfl
  | .enter id literal :: rest, h => by
    rw [passageAlong, turnPassage] at h ⊢
    cases hf : t.faultAt id with
    | none =>
      rw [hf] at h
      exact congrArg _ (text_passageAlong h)
    | some f =>
      rw [hf] at h
      cases h
  | .leave id :: rest, h => by
    rw [passageAlong, turnPassage] at h ⊢
    exact congrArg _ (text_passageAlong h)

/-- With a fault the turns before it are written, and what the faulty node begins with. -/
theorem exists_cutAt {f : Fault} : ∀ (turns : List Turn), (t.passageAlong turns).fault = some f →
    ∃ before x, t.CutAt turns before x f ∧
      (t.passageAlong turns).text = before.flatMap t.written ++ t.unfinished x
  | [], h => by cases h
  | .enter id literal :: rest, h => by
    rw [passageAlong, turnPassage] at h ⊢
    cases hf : t.faultAt id with
    | none =>
      rw [hf] at h
      obtain ⟨before, x, hcut, htext⟩ := exists_cutAt rest h
      refine ⟨.enter id literal :: before, x, hcut.cons fun y hy => ?_, ?_⟩
      · rw [List.mem_singleton.mp hy, hf]
      · rw [Passage.mk_none_append, htext, List.flatMap_cons, List.append_assoc]
    | some f' =>
      rw [hf] at h
      obtain rfl : f' = f := Option.some.inj h
      exact ⟨[], id, ⟨⟨literal, rest, rfl⟩, fun _ hy => absurd hy List.not_mem_nil, hf⟩, rfl⟩
  | .leave id :: rest, h => by
    rw [passageAlong, turnPassage] at h ⊢
    obtain ⟨before, x, hcut, htext⟩ := exists_cutAt rest h
    refine ⟨.leave id :: before, x, hcut.cons fun _ hy => absurd hy List.not_mem_nil, ?_⟩
    rw [Passage.mk_none_append, htext, List.flatMap_cons, List.append_assoc]

/-! ## The way through a tree -/

namespace Linked

theorem turns_eq (h : Linked t kids) (id : NodeId) (literal : Bool) :
    t.turns id literal = .enter id literal ::
      if (t.contentAt id).isLeaf then []
      else (t.children id).flatMap (t.turns · (t.contentAt id).isLiteral) ++ [.leave id] := by
  rw [turns, h.rose_eq, Rose.turns, Rose.turnsAll_eq, List.flatMap_map]
  rfl

/-- The way leads into the nodes that have no leaf strictly above them, in order. -/
theorem lists_visited (h : Linked t kids) (id : NodeId) :
    t.Lists id (t.visited id) fun x =>
      ∀ a, t.StrictlyAbove id a x → ¬ (t.contentAt a).isLeaf := by
  rw [visited, turns, Rose.entered_turns]
  exact h.lists_reached _ id

/-- The markup of the trees below a node is what is written along the ways through them, if that
is so of each. -/
theorem passage_turnsAll (literal : Bool) : ∀ ids : List NodeId,
    (∀ c ∈ ids, t.passageAlong (t.turns c literal) = markupOf literal (t.shape c)) →
    t.passageAlong (ids.flatMap (t.turns · literal)) = markupOfAll literal (ids.map t.shape)
  | [], _ => rfl
  | id :: ids, h => by
    rw [List.flatMap_cons, passageAlong_append, h id List.mem_cons_self,
      passage_turnsAll literal ids fun c hc => h c (List.mem_cons_of_mem id hc), List.map_cons,
      markupOfAll]

/-- The markup of a tree is what is written on the way through it, by induction on the tree. -/
theorem passage_turns (h : Linked t kids) (id : NodeId) (literal : Bool) :
    t.passageAlong (t.turns id literal) = markupOf literal (t.shape id) := by
  induction id using h.induction generalizing literal with
  | step id ih =>
    have hbelow : ∀ literal, t.passageAlong ((t.children id).flatMap (t.turns · literal)) =
        markupOfAll literal ((t.children id).map t.shape) :=
      fun literal => passage_turnsAll literal (t.children id) fun c hc => ih c hc literal
    rw [h.turns_eq, h.shape_eq, passageAlong, turnPassage, faultAt]
    cases hc : t.contentAt id with
    | document =>
      simp only [Content.isLeaf, Bool.false_eq_true, if_false, Content.isLiteral,
        passageAlong_append, hbelow, passageAlong_singleton, turnPassage, written, hc, markupOf]
      rw [Passage.append_nil, Passage.nil_append]
    | element e =>
      by_cases hv : Tag.isVoid e.tag
      · -- Nothing below a void element is visited; whether there is something decides the fault.
        simp only [Content.isLeaf, hv, if_true, Bool.true_and, passageAlong, written, unfinished,
          hc, markupOf, List.isEmpty_map]
        cases (t.children id).isEmpty <;> simp
      · simp only [Content.isLeaf, hv, if_false, Bool.false_and, Bool.false_eq_true,
          Content.isLiteral, passageAlong_append, hbelow, passageAlong_singleton, turnPassage,
          written, hc, markupOf]
        simp
    | _ =>
      simp only [Content.isLeaf, if_true, passageAlong, Passage.append_nil, written, unfinished,
        hc, markupOf]

end Linked

/-! ## The first fault -/

/-- The markup of a node that can be written is what the way through it writes. Otherwise the
first fault on that way is reported, and what comes before it has been written. -/
theorem markup_interrupted (ht : t.Reachable) (id : NodeId) :
    ((t.markup id).text = String.ofList (markupOf false (t.shape id)).text ∧
      (t.markup id).fault = (markupOf false (t.shape id)).fault) ∧
    t.Lists id (t.visited id) (fun x =>
      ∀ a, t.StrictlyAbove id a x → ¬ (t.contentAt a).isLeaf) ∧
    (t.markup id).fault = (t.visited id).findSome? t.faultAt ∧
    ((t.markup id).fault = none →
      (t.markup id).text = String.ofList ((t.turns id).flatMap t.written)) ∧
    ∀ f, (t.markup id).fault = some f → ∃ before x, t.CutAt (t.turns id) before x f ∧
      (t.markup id).text = String.ofList (before.flatMap t.written ++ t.unfinished x) := by
  have hmarkup := ht.linked.markup_passage id
  have hturns := hmarkup.trans (ht.linked.passage_turns id false).symm
  have hfault : (t.markup id).fault = (t.passageAlong (t.turns id)).fault := by
    rw [← hturns, Output.passage]
  refine ⟨⟨?_, ?_⟩, ht.linked.lists_visited id, ?_, fun hf => ?_, fun f hf => ?_⟩
  · rw [Output.text_eq, hmarkup]
  · rw [← hmarkup, Output.passage]
  · rw [hfault, fault_passageAlong, visited]
  · rw [Output.text_eq, hturns, text_passageAlong (hfault ▸ hf)]
  · obtain ⟨before, x, hcut, htext⟩ := exists_cutAt _ (hfault ▸ hf)
    exact ⟨before, x, hcut, by rw [Output.text_eq, hturns, htext]⟩

/-- A page on which the line break of a paragraph has a text below it; an error node comes
last. -/
def brokenPage : Tree :=
  (single .document).run
    [.addChild 0 (.element (.named "pre" [])), .addChild 1 (.text "\nx"),
      .addChild 0 (.element (.named "script" [])), .addChild 3 (.text "a<b"),
      .addChild 0 (.element (.named "p" [])), .addChild 5 (.element (.named "br" [⟨"id", "1"⟩])),
      .addChild 6 (.text "y"), .addChild 0 .error]

/-- The line break is met before the error node, and the text below it is not met. -/
theorem markup_brokenPage : brokenPage.Reachable ∧
    (brokenPage.markup root).fault = some (.voidElementChildren "br") ∧
    (brokenPage.markup root).text =
      "<pre>\n\nx</pre><script>a<b</script><p><br id=\"1\"" ∧
    brokenPage.visited root = [0, 1, 2, 3, 4, 5, 6, 8] ∧
    ∃ before x, brokenPage.CutAt (brokenPage.turns root) before x (.voidElementChildren "br") ∧
      (brokenPage.markup root).text =
        String.ofList (before.flatMap brokenPage.written ++ brokenPage.unfinished x) := by
  have ht : brokenPage.Reachable := ⟨_, _, rfl⟩
  obtain ⟨⟨htext, -⟩, -, hfirst, -, hcut⟩ := markup_interrupted ht root
  have hvisited : brokenPage.visited root = [0, 1, 2, 3, 4, 5, 6, 8] := by decide +kernel
  have hfault : (brokenPage.markup root).fault = some (.voidElementChildren "br") := by
    rw [hfirst, hvisited]
    decide +kernel
  refine ⟨ht, hfault, htext.trans ?_, hvisited, hcut _ hfault⟩
  decide +kernel

end Tree

end Hypertext
