import Hypertext.Proofs.Writer.Blocks
import Hypertext.Proofs.Writer.Outcome

/-!
# One template for all levels and widths

The level and the width of a layout only say how many spaces stand in front of its lines. A
`Template` has the lines with the depth at which each of them is indented, and no spaces.

A margin may be empty, behind which a line still begins, and then the writer would indent once
more. It does not come to that, since a margin is only written in front of something else: of a
tag, of a comment, or of a text, if it is not empty. So between two writes the template is
`Template.Settled`, and it alone tells whether a line begins (`Template.lineBegins_filled`).

* `Scales` says that a text is one template, filled for the options at hand. Every way to go on
  with a text keeps that, and `Linked.scales_laidOut` is the induction on a tree.
* `layout_template`: a layout is one template filled for all options, and fails alike for all.
-/

namespace Hypertext

/-! ## Templates -/

/-- A line of a layout without the spaces in front of it. -/
structure Line where
  /-- The depth below the top at which the line is indented, if it is. -/
  depth : Option Nat
  text : List Char
  unbroken : '\n' ∉ text

namespace Line

/-- A line that has just begun. -/
def blank : Line := ⟨none, [], List.not_mem_nil⟩

/-- A line with one more character. -/
def extend (l : Line) {c : Char} (h : c ≠ '\n') : Line :=
  ⟨l.depth, l.text ++ [c], by
    rw [List.mem_append, List.mem_singleton, not_or]
    exact ⟨l.unbroken, Ne.symm h⟩⟩

/-- The line with the spaces in front of it. -/
def filled (o : LayoutOptions) (l : Line) : List Char :=
  (match l.depth with
    | none => []
    | some d => margin o (o.level.toNat + d)) ++ l.text

theorem not_mem_filled (o : LayoutOptions) (l : Line) : '\n' ∉ l.filled o := by
  rw [filled, List.mem_append, not_or]
  refine ⟨?_, l.unbroken⟩
  cases l.depth with
  | none => exact List.not_mem_nil
  | some d => exact fun h => absurd (List.eq_of_mem_replicate h) (by decide)

theorem filled_extend (o : LayoutOptions) (l : Line) {c : Char} (h : c ≠ '\n') :
    (l.extend h).filled o = l.filled o ++ [c] :=
  (List.append_assoc ..).symm

end Line

/-- The lines of a layout without the spaces in front of them. -/
structure Template where
  ended : List Line
  last : Line

namespace Template

variable {o : LayoutOptions} {T : Template}

/-- A template of one line that has just begun. -/
def start : Template := ⟨[], .blank⟩

def lines (T : Template) : List Line :=
  T.ended ++ [T.last]

/-- The text with the spaces in front of its lines. -/
def filled (o : LayoutOptions) (T : Template) : List Char :=
  T.ended.flatMap (fun l => l.filled o ++ ['\n']) ++ T.last.filled o

/-- A template with one more character. -/
def push (T : Template) (c : Char) : Template :=
  if h : c = '\n' then ⟨T.ended ++ [T.last], .blank⟩ else ⟨T.ended, T.last.extend h⟩

/-- A template whose last line is indented. -/
def indented (d : Nat) (T : Template) : Template :=
  ⟨T.ended, { T.last with depth := some d }⟩

/-- The last line is only indented where something stands on it. -/
def Settled (T : Template) : Prop :=
  T.last.text = [] → T.last.depth = none

theorem filled_eq (o : LayoutOptions) (T : Template) :
    T.filled o = ['\n'].intercalate (T.lines.map (Line.filled o)) := by
  rw [filled, lines]
  induction T.ended with
  | nil => simp
  | cons l ended ih =>
    rw [List.flatMap_cons, List.append_assoc, ih, List.cons_append, List.map_cons,
      List.intercalate_cons_of_ne_nil (by simp)]

/-- The lines of a filled template are its lines, filled. -/
theorem splitOn_filled (o : LayoutOptions) (T : Template) :
    (T.filled o).splitOn '\n' = T.lines.map (Line.filled o) := by
  rw [filled_eq, List.splitOn_intercalate '\n' _ (by simp [lines])]
  intro l hl
  obtain ⟨l, -, rfl⟩ := List.mem_map.mp hl
  exact l.not_mem_filled o

theorem filled_push (o : LayoutOptions) (T : Template) (c : Char) :
    (T.push c).filled o = T.filled o ++ [c] := by
  rw [push]
  split
  · next h =>
    rw [h, filled, filled, List.flatMap_append, List.flatMap_singleton, List.append_assoc,
      List.append_assoc, List.append_assoc]
    rfl
  · rw [filled, filled, Line.filled_extend, List.append_assoc]

theorem settled_push (T : Template) (c : Char) : (T.push c).Settled := by
  rw [push]
  split
  · exact fun _ => rfl
  · exact fun h => absurd (List.append_eq_nil_iff.mp h).2 (List.cons_ne_nil _ _)

theorem filled_foldl_push (o : LayoutOptions) : ∀ (cs : List Char) (T : Template),
    (cs.foldl push T).filled o = T.filled o ++ cs
  | [], _ => (List.append_nil _).symm
  | c :: cs, T => by
    rw [List.foldl_cons, filled_foldl_push o cs, filled_push, List.append_assoc,
      List.singleton_append]

theorem settled_foldl_push : ∀ (cs : List Char) {T : Template}, T.Settled →
    (cs.foldl push T).Settled
  | [], _, h => h
  | c :: cs, T, _ => settled_foldl_push cs (settled_push T c)

theorem filled_indented (h : T.Settled) (hb : T.last.text = []) (d : Nat) (o : LayoutOptions) :
    (T.indented d).filled o = T.filled o ++ margin o (o.level.toNat + d) := by
  simp [indented, filled, Line.filled, h hb, hb]

/-- A settled template tells whether a line begins, whatever it is filled for. -/
theorem lineBegins_filled (h : T.Settled) (o : LayoutOptions) :
    lineBegins (T.filled o) = T.last.text.isEmpty := by
  obtain ⟨ended, depth, text, unbroken⟩ := T
  rcases List.eq_nil_or_concat' text with rfl | ⟨text, c, rfl⟩
  · obtain rfl : depth = none := h rfl
    rcases List.eq_nil_or_concat' ended with rfl | ⟨ended, l, rfl⟩
    · rfl
    · simp only [filled, Line.filled, List.flatMap_append, List.flatMap_singleton, List.append_nil]
      rw [← List.append_assoc, lineBegins_append_singleton]
      rfl
  · have hc : c ≠ '\n' := by
      rintro rfl
      exact unbroken List.mem_concat_self
    simp only [filled, Line.filled]
    rw [← List.append_assoc, ← List.append_assoc, lineBegins_append_singleton, beq_false_of_ne hc]
    simp

end Template

/-! ## Texts that scale -/

variable {text : LayoutOptions → List Char} {p : LayoutOptions → Passage}

/-- The text is one template, filled for the options at hand. -/
def Scales (text : LayoutOptions → List Char) : Prop :=
  ∃ T : Template, T.Settled ∧ ∀ o, text o = T.filled o

namespace Scales

theorem nil : Scales fun _ => [] := ⟨.start, fun _ => rfl, fun _ => rfl⟩

theorem append (h : Scales text) (cs : List Char) : Scales fun o => text o ++ cs := by
  obtain ⟨T, hT, htext⟩ := h
  refine ⟨cs.foldl Template.push T, Template.settled_foldl_push cs hT, fun o => ?_⟩
  simp only [htext, Template.filled_foldl_push]

theorem lineEnded (h : Scales text) : Scales fun o => lineEnded (text o) := by
  obtain ⟨T, hT, htext⟩ := id h
  simp only [Hypertext.lineEnded, htext, T.lineBegins_filled hT]
  cases T.last.text.isEmpty with
  | true => exact ⟨T, hT, fun _ => rfl⟩
  | false => exact append ⟨T, hT, fun _ => rfl⟩ ['\n']

/-- A margin scales with what is written behind it. -/
theorem margined (h : Scales text) (d : Nat) {cs : List Char} (hcs : cs ≠ []) :
    Scales fun o => margined o (o.level.toNat + d) (text o) ++ cs := by
  obtain ⟨T, hT, htext⟩ := h
  obtain ⟨c, cs, rfl⟩ := List.exists_cons_of_ne_nil hcs
  simp only [Hypertext.margined, htext, T.lineBegins_filled hT]
  cases hb : T.last.text.isEmpty with
  | false => exact append ⟨T, hT, fun _ => rfl⟩ (c :: cs)
  | true =>
    refine ⟨(c :: cs).foldl Template.push (T.indented d),
      Template.settled_foldl_push cs (Template.settled_push _ c), fun o => ?_⟩
    rw [Template.filled_foldl_push, T.filled_indented hT (List.isEmpty_iff.mp hb)]
    rfl

theorem opened (h : Scales text) (e : Element) (d : Nat) :
    Scales fun o => opened o e (o.level.toNat + d) (text o) := by
  have hne : e.bareMarkup ≠ [] := by simp [Element.bareMarkup]
  by_cases hb : Tag.isBlock e.tag
  · simp only [Hypertext.opened, hb, if_true]
    exact (h.lineEnded.margined d hne).append ['\n']
  · simp only [Hypertext.opened, hb, if_false, Bool.false_eq_true]
    exact h.margined d hne

theorem closed (h : Scales text) (e : Element) (d : Nat) :
    Scales fun o => closed o e (o.level.toNat + d) (text o) := by
  by_cases hb : Tag.isBlock e.tag
  · have hmargin : ∀ o, Hypertext.lineEnded (text o) ++ margin o (o.level.toNat + d) =
        Hypertext.margined o (o.level.toNat + d) (Hypertext.lineEnded (text o)) := fun o => by
      rw [Hypertext.margined, lineBegins_lineEnded, if_pos rfl]
    simp only [Hypertext.closed, hb, if_true, hmargin]
    exact h.lineEnded.margined d (List.cons_ne_nil _ _)
  · simp only [Hypertext.closed, hb, if_false, Bool.false_eq_true]
    exact h.margined d (List.cons_ne_nil _ _)

end Scales

/-- The text scales, and the fault is the same for all options. -/
def ScalesWithFault (p : LayoutOptions → Passage) : Prop :=
  Scales (fun o => (p o).text) ∧ ∃ fault, ∀ o, (p o).fault = fault

namespace ScalesWithFault

theorem mk (h : Scales text) (fault : Option Fault) : ScalesWithFault fun o => ⟨text o, fault⟩ :=
  ⟨h, fault, fun _ => rfl⟩

theorem andThen {next : LayoutOptions → List Char → Passage} (h : ScalesWithFault p)
    (hnext : Scales (fun o => (p o).text) → ScalesWithFault fun o => next o (p o).text) :
    ScalesWithFault fun o => (p o).andThen (next o) := by
  obtain ⟨hp, fault, hfault⟩ := id h
  cases fault with
  | none => simpa only [Passage.andThen_none (hfault _)] using hnext hp
  | some f => simpa only [Passage.andThen_some (hfault _)] using h

end ScalesWithFault

namespace Tree

variable {t : Tree} {kids : NodeId → List NodeId} {id : NodeId}

/-- At and below `id`, no text is empty. -/
def NoEmptyText (t : Tree) (id : NodeId) : Prop :=
  ∀ x, t.AtOrBelow id x → t.contentAt x ≠ .text ""

namespace Linked

/-- Nodes in order, if each of them scales. -/
theorem scales_laidOutAll (d : Nat) : ∀ (ids : List NodeId) {text : LayoutOptions → List Char},
    (∀ c ∈ ids, ∀ {text}, Scales text →
      ScalesWithFault fun o => laidOut o (o.level.toNat + d) (t.shape c) (text o)) → Scales text →
    ScalesWithFault fun o => laidOutAll o (o.level.toNat + d) (ids.map t.shape) (text o)
  | [], _, _, h => .mk h none
  | c :: ids, _, hids, h => by
    simp only [List.map_cons, laidOutAll]
    exact (hids c List.mem_cons_self h).andThen
      (scales_laidOutAll d ids fun x hx => hids x (List.mem_cons_of_mem c hx))

/-- What a tree makes of a text scales with the text, by induction on the tree. -/
theorem scales_laidOut (h : Linked t kids) (hne : t.NoEmptyText id) (d : Nat)
    (htext : Scales text) :
    ScalesWithFault fun o => laidOut o (o.level.toNat + d) (t.shape id) (text o) := by
  induction id using h.induction generalizing d text with
  | step id ih =>
    have hbelow : ∀ d {text}, Scales text → ScalesWithFault fun o =>
        laidOutAll o (o.level.toNat + d) ((t.children id).map t.shape) (text o) := fun d _ =>
      scales_laidOutAll d _ fun c hc _ => ih c hc (fun x hx => hne x (.child hc hx)) d
    rw [h.shape_eq]
    cases hc : t.contentAt id with
    | document => exact hbelow d htext
    | element e =>
      have hopened := htext.opened e d
      by_cases hv : Tag.isVoid e.tag
      · simp only [laidOut_void hv]
        exact .mk hopened none
      by_cases hl : Tag.isLiteral e.tag
      · simp only [laidOut_literal hv hl]
        exact .andThen (.mk (hopened.append _) _) fun h => .mk (h.closed e d) none
      · simp only [laidOut_element hv hl]
        exact (hbelow (d + 1) hopened).andThen fun h => .mk (h.closed e d) none
    | text data =>
      have hdata : data ≠ "" := fun he => hne id (.refl t id) (by rw [hc, he])
      exact .mk (htext.margined d (mt escaped_eq_nil.mp hdata)) none
    | comment data => exact .mk (htext.margined d (by simp [commentMarkup])) none
    | doctype dt => exact .mk (htext.append _).lineEnded none
    | raw data => exact .mk (htext.append _) none
    | error => exact .mk htext (some .errorNode)

end Linked

end Tree

/-- Where no text is empty, a layout is one template for all levels and widths: it is the template
filled for the options at hand, so that its lines are those of the template with margins in front,
and it fails alike for all of them. The margin at a depth has `(level + depth) * width` spaces, as
long as a word can hold this number. -/
theorem layout_template {t : Tree} (ht : t.Reachable) {id : NodeId} (hne : t.NoEmptyText id)
    (newline : Bool) : ∃ (T : Template) (fault : Option Fault), ∀ o : LayoutOptions,
      o.trailingNewline = newline →
        (t.layout o id).fault = fault ∧ (t.layout o id).text = String.ofList (T.filled o) ∧
        (t.layout o id).text.toList.splitOn '\n' = T.lines.map (Line.filled o) ∧
        ∀ depth, (o.level.toNat + depth) * o.width.toNat < UInt64.size →
          margin o (o.level.toNat + depth) =
            List.replicate ((o.level.toNat + depth) * o.width.toNat) ' ' := by
  have h := ht.linked
  have hends : ScalesWithFault fun o => (laidOut o (o.level.toNat + 0) (t.shape id) []).andThen
      fun text => ⟨if newline then lineEnded text else text, none⟩ := by
    refine (h.scales_laidOut hne 0 .nil).andThen fun htext => .mk ?_ none
    cases newline with
    | false => exact htext
    | true => exact htext.lineEnded
  obtain ⟨⟨T, -, htext⟩, fault, hfault⟩ := hends
  refine ⟨T, fault, fun o ho => ?_⟩
  have hpassage : (t.layout o id).passage = ⟨T.filled o, fault⟩ := by
    rw [h.layout_passage, layoutOf, ho, ← htext o, ← hfault o]
    rfl
  have hwritten : (t.layout o id).text = String.ofList (T.filled o) := by
    rw [Output.text_eq, hpassage]
  refine ⟨congrArg Passage.fault hpassage, hwritten, ?_, fun _ => margin_of_lt⟩
  rw [hwritten, String.toList_ofList, T.splitOn_filled]

/-- The same lines at two levels and in two widths. -/
theorem layout_template_boldList : boldList.Reachable ∧ boldList.NoEmptyText Tree.root ∧
    (boldList.layout {} Tree.root).text =
      "Items:<b>two\n  <ul>\n    <li>\n      x\n    </li>\n  </ul></b>" ∧
    (boldList.layout { level := 1, width := 1 } Tree.root).text =
      " Items:<b>two\n  <ul>\n   <li>\n    x\n   </li>\n  </ul></b>" ∧
    ∃ T : Template,
      (boldList.layout {} Tree.root).text = String.ofList (T.filled {}) ∧
      (boldList.layout { level := 1, width := 1 } Tree.root).text =
        String.ofList (T.filled { level := 1, width := 1 }) := by
  have ht : boldList.Reachable := ⟨_, _, rfl⟩
  have hall : ∀ x ∈ (boldList.rose Tree.root).toList, boldList.contentAt x ≠ .text "" := by
    decide +kernel
  have hne : boldList.NoEmptyText Tree.root := fun x hx => hall x (ht.linked.mem_rose.mpr hx)
  obtain ⟨T, fault, hT⟩ := layout_template ht hne false
  refine ⟨ht, hne, ?_, ?_, T, (hT {} rfl).2.1, (hT { level := 1, width := 1 } rfl).2.1⟩
  · decide +kernel
  · decide +kernel

/-- Behind an empty text the line has gone on if there are spaces in front of it, and else it
has not. -/
example :
    let t := (Tree.single .document).run
      [.addChild 0 (.text ""), .addChild 0 (.element (.named "p" []))]
    (t.layout {} Tree.root).text = "<p>\n</p>" ∧
      (t.layout { level := 1 } Tree.root).text = "  \n  <p>\n  </p>" := by
  decide +kernel

end Hypertext
