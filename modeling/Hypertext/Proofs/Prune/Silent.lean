import Hypertext.Proofs.Prune.Stateless
import Hypertext.Proofs.Writer.PlainText

/-!
# Pruning what says nothing

What a node adds to plain text with all that stands below it does not depend on where it stands: it
is what the tree below it says (`Rose.said`). So a copy without some branches says the same as the
source if these branches say nothing by themselves (`Tree.plainText_prune_silent`), as scripts,
comments and empty elements do.
-/

namespace Hypertext

namespace Rose

variable {α β : Type}

/-- A walk through a tree with other values meets the values that stand where it went before. -/
theorem reached_map (stop : β → Bool) (f : α → β) (r : Rose α) :
    (r.map f).reached stop = (r.reached fun a => stop (f a)).map f := by
  induction r with
  | node value below ih =>
    rw [map_node, reached_node, reached_node, List.map_cons, List.flatMap_map,
      List.flatMap_congr ih, ← List.map_flatMap]
    split <;> rfl

/-- What a tree of contents says in plain text. -/
def said (r : Rose Content) : List Char :=
  (r.reached fun c => c.isBreak || c.isUnspoken).flatMap fun c => c.said.toList

theorem said_node (c : Content) (below : List (Rose Content)) : (node c below).said =
    c.said.toList ++ if c.isBreak || c.isUnspoken then [] else below.flatMap said := by
  rw [said, reached_node, List.flatMap_cons]
  split
  · rw [List.flatMap_nil]
  · rw [List.flatMap_assoc]
    rfl

end Rose

namespace Tree

variable {σ : Type} {t : Tree} {kids : NodeId → List NodeId} {id : NodeId} {p : NodeId → Bool}

namespace Linked

/-- Plain text of a node is determined by the contents at and below it. -/
theorem text_shape (h : Linked t kids) (id : NodeId) :
    (t.plainText id).text.toList = (t.shape id).said := by
  have hstop : t.endsPlain = fun x => (t.contentAt x).isBreak || (t.contentAt x).isUnspoken :=
    funext t.endsPlain_eq
  rw [h.text_plainText, plainNodes, hstop, shape, Rose.said, Rose.reached_map, List.flatMap_map]
  simp only [getD_plainWrite?]

/-- What is left of a tree says the same as the whole if what is cut off says nothing. By induction
on the tree below the node. -/
theorem said_without (h : Linked t kids)
    (hsilent : ∀ m, t.AtOrBelow id m → p m → (t.shape m).said = []) :
    (((t.rose id).without p).toList.flatMap fun kept => (kept.map t.contentAt).said) =
      (t.shape id).said := by
  induction id using h.induction with
  | step id ih =>
    by_cases hp : p id
    · rw [hsilent id (.refl t id) hp, h.rose_eq, Rose.without_node, if_pos hp]
      rfl
    · have hbelow : (((t.children id).map t.rose).filterMap (Rose.without p)).flatMap
          (fun kept => (kept.map t.contentAt).said) =
            ((t.children id).map t.shape).flatMap Rose.said := by
        rw [List.filterMap_eq_flatMap_toList, List.flatMap_assoc, List.flatMap_map,
          List.flatMap_map]
        exact List.flatMap_congr fun c hc =>
          ih c hc fun m hm => hsilent m (.child hc hm)
      rw [h.rose_eq, h.shape_eq, Rose.without_node, if_neg hp, Option.toList_some,
        List.flatMap_singleton, Rose.map_node, Rose.said_node, Rose.said_node, List.flatMap_map,
        hbelow]

end Linked

/-- Without branches that say nothing by themselves, a copy says the same as its source. -/
theorem plainText_prune_silent (ht : t.Reachable) (hid : id < t.size) (hkept : ¬ p id)
    (hsilent : ∀ m, t.AtOrBelow id m → p m → (t.plainText m).text? = .ok "") (s : σ) :
    ∃ copy, (t.prune (Test.pure p) id s).1 = some copy ∧
      (copy.plainText root).text? = (t.plainText id).text? := by
  have h := ht.linked
  have hnothing : ∀ m, t.AtOrBelow id m → p m → (t.shape m).said = [] := fun m hm hp => by
    rw [← h.text_shape, Except.ok.inj (hsilent m hm hp), String.toList_empty]
  have hsaid := h.said_without hnothing
  obtain ⟨kept, hwithout⟩ : ∃ kept, (t.rose id).without p = some kept := by
    rw [h.rose_eq, Rose.without_node, if_neg hkept]
    exact ⟨_, rfl⟩
  rw [hwithout, Option.toList_some, List.flatMap_singleton, ← h.text_shape] at hsaid
  refine ⟨ofRose (kept.map t.contentAt), ?_, congrArg Except.ok (String.toList_inj.mp ?_)⟩
  · rw [h.prune_pure_eq hid, hwithout, Option.map_some]
  · rw [(reachable_ofRose _).linked.text_shape, shape_ofRose, hsaid]

/-- The empty text, the script and the comment go, and the element that holds the comment with
them: of twelve nodes seven are left, and they say the same. -/
theorem plainText_prune_remark : remark.Reachable ∧ ∃ copy,
    (remark.prune (Test.pure fun x => x ∈ [5, 6, 9, 10]) root ()).1 = some copy ∧
      copy.size = 7 ∧ (copy.plainText root).text? = .ok "a&\ncdef" := by
  have ht : remark.Reachable := ⟨_, _, rfl⟩
  have hsilent : ∀ m ∈ [5, 6, 9, 10], (remark.plainText m).text? = .ok "" := by decide +kernel
  obtain ⟨copy, hcopy, htext⟩ := plainText_prune_silent ht (by decide : root < remark.size)
    (p := fun x => x ∈ [5, 6, 9, 10]) (by decide)
    (fun m _ hm => hsilent m (of_decide_eq_true hm)) ()
  refine ⟨ht, copy, hcopy, ?_, htext.trans (by decide +kernel)⟩
  have hsize : some copy.size = some 7 :=
    (congrArg (Option.map size) hcopy).symm.trans (by decide +kernel)
  exact Option.some.inj hsize

end Tree

end Hypertext
