import Hypertext.Proofs.Loop.PlainText

/-!
# What plain text says

Plain text is made of what nodes say of their own (`Content.said`): texts, with their references
resolved, and line breaks. It is said by the nodes that are `Tree.Heard`: they are neither in a
script or a style sheet nor below a line break.

* `Linked.writes_speakers`: there is one write for each text and for each line break that is heard.
* `Tree.plainText_heard`: plain text is what the nodes that are heard say, in order.
-/

namespace Hypertext

namespace Content

/-- What a node says in plain text of its own. -/
def said : Content → String
  | .text data => Reference.unescape data
  | .element e => if e.tag = some .br then "\n" else ""
  | _ => ""

/-- Whether a node is a line break. -/
def isBreak (c : Content) : Bool :=
  c.tag? == some .br

/-- Whether a node is a script or a style sheet. -/
def isUnspoken (c : Content) : Bool :=
  c.tag? == some .script || c.tag? == some .style

/-- Whether something is written for a node in plain text, be it empty. -/
def speaks (c : Content) : Bool :=
  c.isText || c.isBreak

theorem plainPart_eq (c : Content) : Tree.plainPart c =
    (if c.speaks then some c.said else none, !(c.isBreak || c.isUnspoken)) := by
  cases c with
  | element e =>
    simp only [Tree.plainPart, speaks, isText, isBreak, isUnspoken, said, tag?, element?,
      Option.bind_some, Bool.false_or, beq_iff_eq]
    by_cases hbr : e.tag = some .br
    · simp [hbr]
    · by_cases hskip : e.tag = some .script ∨ e.tag = some .style
      · rw [if_neg hbr, if_pos hskip, if_neg hbr]
        rcases hskip with hskip | hskip <;> simp [hskip]
      · obtain ⟨hscript, hstyle⟩ := not_or.mp hskip
        simp [hbr, hscript, hstyle]
  | _ => rfl

/-- No node is written and passed over. -/
theorem not_isUnspoken_of_speaks {c : Content} (h : c.speaks) : ¬ c.isUnspoken := by
  rw [speaks, Bool.or_eq_true, isBreak, beq_iff_eq] at h
  rcases h with h | h
  · cases c with
    | text data => exact Bool.false_ne_true
    | _ => cases h
  · rw [isUnspoken, h]
    exact Bool.false_ne_true

theorem said_eq_empty {c : Content} (h : ¬ c.speaks) : c.said = "" := by
  cases c with
  | text data => exact absurd rfl h
  | element e =>
    rw [said, if_neg fun hbr => h ?_]
    rw [speaks, isBreak, tag?, element?, Option.bind_some, hbr]
    rfl
  | _ => rfl

end Content

namespace Tree

variable {t : Tree} {kids : NodeId → List NodeId} {id : NodeId}

/-- A node that plain text of `id` is heard from: no script or style sheet is at or above it, and no
line break is strictly above it. -/
structure Heard (t : Tree) (id x : NodeId) : Prop where
  spoken : ∀ a, t.AtOrBelow id a → t.AtOrBelow a x → ¬ (t.contentAt a).isUnspoken
  unbroken : ∀ a, t.StrictlyAbove id a x → ¬ (t.contentAt a).isBreak

/-- The nodes that plain text is heard from, in order. -/
def heard (t : Tree) (id : NodeId) : List NodeId :=
  (t.plainNodes id).filter fun x => !(t.contentAt x).isUnspoken

/-- The nodes for which something is written in plain text, in order. -/
def speakers (t : Tree) (id : NodeId) : List NodeId :=
  (t.heard id).filter fun x => (t.contentAt x).speaks

theorem endsPlain_eq (t : Tree) (x : NodeId) :
    t.endsPlain x = ((t.contentAt x).isBreak || (t.contentAt x).isUnspoken) := by
  rw [endsPlain, Content.plainPart_eq, Bool.not_not]

theorem plainWrite?_eq (t : Tree) (x : NodeId) : t.plainWrite? x =
    if (t.contentAt x).speaks then some (t.contentAt x).said else none := by
  rw [plainWrite?, Content.plainPart_eq]

theorem getD_plainWrite? (t : Tree) (x : NodeId) :
    (t.plainWrite? x).getD "" = (t.contentAt x).said := by
  rw [plainWrite?_eq]
  split
  · rfl
  · exact (Content.said_eq_empty ‹_›).symm

theorem speakers_eq (t : Tree) (id : NodeId) :
    t.speakers id = (t.plainNodes id).filter fun x => (t.contentAt x).speaks := by
  rw [speakers, heard, List.filter_filter]
  refine List.filter_congr fun x _ => ?_
  cases hspeaks : (t.contentAt x).speaks with
  | false => rfl
  | true => simp [Content.not_isUnspoken_of_speaks hspeaks]

namespace Linked

theorem lists_heard (h : Linked t kids) (id : NodeId) :
    t.Lists id (t.heard id) (t.Heard id) := by
  refine ((h.lists_reached t.endsPlain id).filter _).congr fun x hx => ?_
  simp only [endsPlain_eq, Bool.or_eq_true, not_or, Bool.not_eq_true']
  constructor
  · rintro ⟨hfree, hspoken⟩
    refine ⟨fun a hida hax => ?_, fun a ha => (hfree a ha).1⟩
    by_cases hne : a = x
    · rw [hne, hspoken]
      exact Bool.false_ne_true
    · exact (hfree a ⟨hida, hax, hne⟩).2
  · rintro ⟨hspoken, hunbroken⟩
    exact ⟨fun a ha => ⟨hunbroken a ha, hspoken a ha.1 ha.2.1⟩,
      Bool.eq_false_iff.mpr (hspoken x hx (.refl t x))⟩

theorem nodup_plainNodes (h : Linked t kids) (id : NodeId) : (t.plainNodes id).Nodup :=
  (h.lists_reached t.endsPlain id).nodup

/-- Plain text says what the nodes that are heard say. -/
theorem text_heard (h : Linked t kids) (id : NodeId) :
    (t.plainText id).text = String.join ((t.heard id).map fun x => (t.contentAt x).said) := by
  rw [← String.toList_inj, h.text_plainText, String.toList_join, List.flatMap_map]
  simp only [getD_plainWrite?]
  refine (flatMap_eq_iff_of_sublist List.filter_sublist (h.nodup_plainNodes id)).mpr
    fun x hx hnot => ?_
  have hunspoken : (t.contentAt x).isUnspoken := by
    by_contra hspoken
    exact hnot (List.mem_filter.mpr ⟨hx, by simp [hspoken]⟩)
  rw [Content.said_eq_empty fun hspeaks => Content.not_isUnspoken_of_speaks hspeaks hunspoken]
  rfl

/-- What each of the speakers says is one write. -/
theorem writes_speakers (h : Linked t kids) (id : NodeId) :
    (t.plainText id).writes.toList = (t.speakers id).map fun x => (t.contentAt x).said := by
  have hsilent : ∀ x ∈ t.plainNodes id, x ∉ t.speakers id → (t.plainWrite? x).toList = [] := by
    intro x hx hnot
    rw [speakers_eq, List.mem_filter, not_and] at hnot
    rw [plainWrite?_eq, if_neg (hnot hx), Option.toList_none]
  have hsublist : (t.speakers id).Sublist (t.plainNodes id) := by
    rw [speakers_eq]
    exact List.filter_sublist
  rw [h.writes_plainText, (flatMap_eq_iff_of_sublist hsublist (h.nodup_plainNodes id)).mpr hsilent,
    List.map_eq_flatMap]
  refine List.flatMap_congr fun x hx => ?_
  rw [plainWrite?_eq, if_pos (List.mem_filter.mp hx).2, Option.toList_some]

end Linked

/-- Plain text never fails. It is what the nodes that are heard say, in order: those that have no
script or style sheet at or above them and no line break strictly above them. A text says what it
stands for, a line break says a newline, and nothing else says anything. -/
theorem plainText_heard (ht : t.Reachable) (id : NodeId) :
    t.Lists id (t.heard id) (t.Heard id) ∧
    (t.plainText id).text? =
      .ok (String.join ((t.heard id).map fun x => (t.contentAt x).said)) :=
  ⟨ht.linked.lists_heard id, congrArg Except.ok (ht.linked.text_heard id)⟩

/-- A remark with a line break, an empty text, a script and a comment in it; a text stands below the
line break. -/
def remark : Tree :=
  (single .document).run
    [.addChild 0 (.element (.named "p" [])), .addChild 1 (.text "a&#38;"),
      .addChild 1 (.element (.named "br" [])), .addChild 3 (.text "q"), .addChild 1 (.text ""),
      .addChild 1 (.element (.named "script" [])), .addChild 6 (.text "x"),
      .addChild 1 (.text "cde"), .addChild 1 (.element (.named "i" [])),
      .addChild 9 (.comment "note"), .addChild 1 (.text "f")]

/-- Of the twelve nodes of the remark neither the text below the line break nor the script is heard,
nor what stands in the script. -/
theorem plainText_heard_remark : remark.Reachable ∧
    remark.heard root = [0, 1, 2, 3, 5, 8, 9, 10, 11] ∧ ¬ remark.Heard root 4 ∧
    (remark.plainText root).text? = .ok "a&\ncdef" := by
  have ht : remark.Reachable := ⟨_, _, rfl⟩
  obtain ⟨hlists, htext⟩ := plainText_heard ht root
  have hheard : remark.heard root = [0, 1, 2, 3, 5, 8, 9, 10, 11] := by decide +kernel
  refine ⟨ht, hheard, fun hfour => ?_, htext.trans ?_⟩
  · have hbelow : remark.AtOrBelow root 4 := ht.linked.mem_rose.mp (by decide +kernel)
    have hmem := (hlists.mem_iff 4).mpr ⟨hbelow, hfour⟩
    rw [hheard] at hmem
    exact absurd hmem (by decide)
  · rw [hheard]
    decide +kernel

end Tree

end Hypertext
