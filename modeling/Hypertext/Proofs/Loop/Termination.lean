import Hypertext.Proofs.Loop.Writing

/-!
# That all loops end

All loops over the nodes of a tree end, from any node on and whatever a tree holds or a test
answers (`Tree.LoopsEnd`, `Tree.loopsEnd`). What a fueled run gives is the result of its loop, so
the fuel is never used up.

The loop up the parents of a node is not a loop over pending nodes: it ends since the way up does
(`Tree.exists_ancestorEnds`).
-/

namespace Hypertext.Tree

variable {t : Tree} {kids : NodeId → List NodeId} {id : NodeId}

/-- The loop that looks for a node on the way up. -/
def ancestorLoop (t : Tree) (target : NodeId) : Loop NodeId Unit Bool where
  round id s := if id == target then .stop [] true else .next (t.parent? id).toList s
  finish _ := false

theorem ancestorLoop_hit (t : Tree) (target : NodeId) :
    (t.ancestorLoop target).round target () = .stop [] true :=
  if_pos (beq_self_eq_true target)

theorem ancestorLoop_miss (t : Tree) {target : NodeId} (hne : id ≠ target) :
    (t.ancestorLoop target).round id () = .next (t.parent? id).toList () :=
  if_neg fun e => hne (beq_iff_eq.mp e)

/-- The loop up the parents meets a beginning of the way up. By induction on this way. -/
theorem exists_ancestorEnds (t : Tree) (target : NodeId) : ∀ {way : List NodeId}
    {start : Option NodeId}, Follows t.parent? start way → ∃ taken answer,
      (t.ancestorLoop target).Ends start.toList () taken [] answer ∧ taken <+: way ∧
        ∀ n, way.length ≤ n → t.metAbove target n start = answer
  | [], start, hway => by
    obtain rfl := follows_nil.mp hway
    refine ⟨[], false, .done (), List.prefix_refl _, fun n _ => ?_⟩
    cases n <;> rfl
  | id :: above, start, ⟨hstart, habove⟩ => by
    subst hstart
    obtain ⟨taken, answer, hends, hmet, hrun⟩ := exists_ancestorEnds t target habove
    have hfuel : ∀ n, (id :: above).length ≤ n →
        t.metAbove target n (some id) = (id == target || answer) := by
      intro n hn
      obtain ⟨m, rfl⟩ := Nat.exists_eq_add_of_le' hn
      rw [List.length_cons] at hn ⊢
      rw [← Nat.add_assoc, metAbove, hrun _ (Nat.le_add_left _ m)]
    by_cases hid : id = target
    · subst hid
      have hfirst : [id] <+: id :: above := List.prefix_append [id] above
      refine ⟨[id], true, .stop [] (ancestorLoop_hit t id), hfirst, fun n hn => ?_⟩
      rw [hfuel n hn, beq_self_eq_true, Bool.true_or]
    · have hmore : id :: taken <+: id :: above := List.cons_prefix_cons.mpr ⟨rfl, hmet⟩
      refine ⟨id :: taken, answer, .next (ancestorLoop_miss t hid) ?_, hmore, fun n hn => ?_⟩
      · rw [List.append_nil]
        exact hends
      · rw [hfuel n hn, beq_false_of_ne hid, Bool.false_or]

/-- All loops from a node on end. The loops over pending nodes meet no node twice, the writers
of markup and of layouts take one end tag for each element that they open, and the loop up the
parents meets no more nodes than there are. -/
structure LoopsEnd (t : Tree) (id : NodeId) : Prop where
  /-- The links from the last child back lead through the children, and no further. -/
  siblings : Follows t.prev? (t.last? id) (t.children id).reverse ∧
    (t.children id).length ≤ t.size ∧
    ∀ keep rest, t.childrenOnto keep id rest = (t.children id).filter keep ++ rest
  ancestors : id < t.size → ∀ target, ∃ taken answer,
    (t.ancestorLoop target).Ends [id] () taken [] answer ∧ t.isAtOrAbove target id = answer ∧
      taken.Nodup ∧ taken.length ≤ t.size
  walk : ∀ n, ∃ taken left, (Walk.loop t).Pulls n [id] () taken taken left () ∧
    Walk.take t n (Walk.start id) = (taken, ⟨left⟩) ∧ t.MeetsOnce id taken ∧
      (taken.length < n → left = [])
  /-- A search that begins at the node itself, or at its children. -/
  search : ∀ {σ : Type} (p : Test σ) (s : σ) (n : Nat) (w : Search),
    w = Search.start id ∨ w = Search.below t id → ∃ taken found left s',
      (Search.loop t p).Pulls n w.pending s taken found left s' ∧
        Search.take t p n w s = (found, ⟨left⟩, s') ∧ t.MeetsOnce id taken ∧
        (found.length < n → left = [])
  /-- Pruning from a node on that is not dropped. The node is asked about before the loop. -/
  prune : ∀ {σ : Type} (drop : Test σ) (s s' : σ) (content : Content),
    t.content? id = some content → drop id s = (false, s') → ∃ taken copy s'',
      (t.pruneLoop drop).Ends ((t.children id).map (·, root)) (single content, s') taken []
          (copy, s'') ∧
        t.prune drop id s = (some copy, s'') ∧ t.MeetsOnce id (id :: taken.map Prod.fst)
  plainText : ∃ taken writes, t.plainTextLoop.Ends [id] #[] taken [] writes ∧
    t.plainText id = { writes } ∧ t.MeetsOnce id taken
  markup : ∃ taken left, (Markup.loop t).Ends [.node id false] #[] taken left (t.markup id) ∧
    t.MeetsOnce id (taken.flatMap Markup.Task.reads) ∧
    taken.countP Markup.Task.isClose + left.countP Markup.Task.isClose =
      taken.countP (Markup.Task.opens t) ∧
    ((t.markup id).fault = none → left = [])
  /-- For an element with literal content the loops of `markup` from its children on are run
  within one round, so all nodes at and below it count as read there. -/
  layout : ∀ o : LayoutOptions, ∃ taken left p fault,
    (Layout.loop t o).Ends [.node id o.level] {} taken left (p, fault) ∧
      t.layout o id =
        (if fault = none ∧ o.trailingNewline then p.endLine else p).output fault ∧
      t.MeetsOnce id (taken.flatMap (Layout.Task.reads t)) ∧
      taken.countP Layout.Task.isClose + left.countP Layout.Task.isClose =
        taken.countP (Layout.Task.opens t) ∧
      (fault = none → left = [])

theorem Linked.ancestors_end (h : Linked t kids) (hid : id < t.size) (target : NodeId) :
    ∃ taken answer, (t.ancestorLoop target).Ends [id] () taken [] answer ∧
      t.isAtOrAbove target id = answer ∧ taken.Nodup ∧ taken.length ≤ t.size := by
  obtain ⟨above, ha⟩ := h.upward id
  have hway : Follows t.parent? (some id) (id :: above) := ⟨rfl, ha⟩
  have hlength := hway.length_le (h.lt_of_mem_way hid hway)
  obtain ⟨taken, answer, hends, hmet, hrun⟩ := exists_ancestorEnds t target hway
  exact ⟨taken, answer, hends, hrun _ hlength, hway.nodup.sublist hmet.sublist,
    Nat.le_trans hmet.length_le hlength⟩

/-- From every node on, all loops over a tree that can be built end. -/
theorem loopsEnd (ht : t.Reachable) (id : NodeId) : t.LoopsEnd id := by
  have h := ht.linked
  refine {
    siblings := ⟨h.backward id, h.length_kids_le id,
      fun keep rest => h.childrenOnto_eq keep id rest⟩
    ancestors := h.ancestors_end
    walk := Walk.exists_pulls h id
    search := fun p s n w hw => ?_
    prune := fun drop s s' content hc hd => exists_pruneEnds h hc hd
    plainText := exists_plainTextEnds h id
    markup := Markup.exists_ends h id
    layout := fun o => Layout.exists_ends h o id }
  rcases hw with rfl | rfl
  · refine Search.exists_pulls h ?_ p s n
    rw [← Search.ahead_start]
  · exact Search.exists_pulls h (Search.ahead_below_sublist h id) p s n

/-- A document with a style sheet in a section, and an image below a node that is attached
nowhere. -/
def styledSection : Tree :=
  (single .document).run
    [.addChild 0 (.element (.named "section" [])), .add (.element (.named "p" [])),
      .addChild 1 (.element (.named "style" [])), .addChild 3 (.text "a > b"),
      .addChild 1 (.text "x"), .addChild 2 (.element (.named "img" []))]

/-- The writer of markup ends with nothing left, so each element that it opens is closed. -/
theorem loopsEnd_styledSection : styledSection.Reachable ∧ styledSection.size = 7 ∧
    (styledSection.rose root).toList = [0, 1, 3, 4, 5] ∧
    (∃ taken, (Markup.loop styledSection).Ends [.node root false] #[] taken []
      (styledSection.markup root) ∧
        taken.countP Markup.Task.isClose = taken.countP (Markup.Task.opens styledSection)) ∧
    ∃ taken answer, (styledSection.ancestorLoop 2).Ends [5] () taken [] answer ∧
      styledSection.isAtOrAbove 2 5 = answer ∧ taken.length ≤ 7 := by
  have ht : styledSection.Reachable := ⟨_, _, rfl⟩
  have hsize : styledSection.size = 7 := by decide +kernel
  have hfault : (styledSection.markup root).fault = none := by decide +kernel
  obtain ⟨taken, left, hends, -, hcount, hleft⟩ := (loopsEnd ht root).markup
  obtain ⟨met, answer, hmet, hanswer, -, hlength⟩ := (loopsEnd ht 5).ancestors (by decide) 2
  rw [hleft hfault] at hends hcount
  refine ⟨ht, hsize, by decide +kernel, ⟨taken, hends, ?_⟩, met, answer, hmet, hanswer, ?_⟩
  · rw [← hcount, List.countP_nil, Nat.add_zero]
  · rw [← hsize]
    exact hlength

end Hypertext.Tree
