import Hypertext.Proofs.Tree.Grown

/-!
# Requests that make the same tree

The child lists and the contents determine a tree (`Linked.ext`): however it was built, each link is
where the child lists put it. So requests make the same tree as soon as they make the same child
lists.

* `addChild_answers`: to add a node below another is to add it and then to attach it, and this
  attachment is never refused. So every tree can be built without adding below
  (`Reachable.exists_elementary`).
* `attach_interchange`: two attachments are granted in one order as soon as they are granted in the
  other. They make the same tree, but for the order of two children of one node.

The second rests on what an attachment puts below other nodes (`Linked.atOrBelow_link`). A cycle
that two attachments close leads through both, and so it is the same cycle in either order
(`Linked.linkable_link_iff`).
-/

namespace Hypertext.Tree

variable {t u : Tree} {kids : NodeId → List NodeId} {p q c id : NodeId} {p₁ p₂ c₁ c₂ : NodeId}

/-! ## Trees by their child lists -/

theorem ext_cell? (h : ∀ id, t.cell? id = u.cell? id) : t = u := by
  obtain ⟨cells, _⟩ := t
  obtain ⟨cells', _⟩ := u
  obtain rfl : cells = cells' := Array.ext_getElem? h
  rfl

/-- There is nothing to a cell but its content and its links. -/
theorem cell?_congr (hcontent : t.content? id = u.content? id)
    (hparent : t.parent? id = u.parent? id) (hfirst : t.first? id = u.first? id)
    (hlast : t.last? id = u.last? id) (hprev : t.prev? id = u.prev? id)
    (hnext : t.next? id = u.next? id) : t.cell? id = u.cell? id := by
  simp only [content?, parent?, first?, last?, prev?, next?] at *
  cases ht : t.cell? id with
  | none =>
    rw [ht, Option.map_none, eq_comm, Option.map_eq_none_iff] at hcontent
    exact hcontent.symm
  | some cell =>
    cases hu : u.cell? id with
    | none => simp [ht, hu] at hcontent
    | some cell' =>
      obtain ⟨_, _, _, _, _, _⟩ := cell
      simp_all

namespace Linked

/-- The siblings of a node are its neighbours in the child list. -/
theorem siblings_eq (h : Linked t kids) {before after : List NodeId}
    (hk : kids p = before ++ c :: after) :
    t.prev? c = before.getLast? ∧ t.next? c = after.head? := by
  have hf := h.forward p
  have hb := h.backward p
  rw [hk] at hf
  rw [hk, List.reverse_append, List.reverse_cons, List.append_assoc, List.singleton_append] at hb
  rw [← List.head?_reverse]
  exact ⟨hb.tail_suffix.head?.symm, hf.tail_suffix.head?.symm⟩

theorem parent?_congr (h : Linked t kids) (h' : Linked u kids) (id : NodeId) :
    t.parent? id = u.parent? id :=
  Option.ext fun p => by rw [← h.mem_iff, ← h'.mem_iff]

/-- The child lists and the contents determine a tree. -/
theorem ext (h : Linked t kids) (h' : Linked u kids)
    (hcontent : ∀ id, t.content? id = u.content? id) : t = u := by
  refine ext_cell? fun id => ?_
  have hparent := h.parent?_congr h' id
  have hsiblings : t.prev? id = u.prev? id ∧ t.next? id = u.next? id := by
    cases hp : t.parent? id with
    | none =>
      obtain ⟨e₁, e₂⟩ := h.alone hp
      obtain ⟨e₁', e₂'⟩ := h'.alone (hparent ▸ hp)
      exact ⟨e₁.trans e₁'.symm, e₂.trans e₂'.symm⟩
    | some p =>
      obtain ⟨before, after, hk⟩ := List.append_of_mem (h.mem_iff.mpr hp)
      obtain ⟨e₁, e₂⟩ := h.siblings_eq hk
      obtain ⟨e₁', e₂'⟩ := h'.siblings_eq hk
      exact ⟨e₁.trans e₁'.symm, e₂.trans e₂'.symm⟩
  exact cell?_congr (hcontent id) hparent ((h.first?_eq id).trans (h'.first?_eq id).symm)
    ((h.last?_eq id).trans (h'.last?_eq id).symm) hsiblings.1 hsiblings.2

/-! ## Attachments that are granted -/

theorem linkable_iff (h : Linked t kids) : Linkable t p c ↔
    p < t.size ∧ c < t.size ∧ c ≠ root ∧ t.parent? c = none ∧ ¬ t.AtOrBelow c p := by
  refine ⟨fun hl => ?_, fun ⟨hp, hc, hroot, hnone, hfree⟩ => ?_⟩
  · obtain ⟨above, ha⟩ := h.upward p
    have hway : Follows t.parent? (some p) (p :: above) := ⟨rfl, ha⟩
    refine ⟨hl.lt_parent, hl.lt_child, hl.ne_root, hl.detached, ?_⟩
    exact fun hb => hl.not_above _ hway ((h.mem_way_iff hway).mpr hb)
  · exact ⟨hp, hc, hroot, hnone, fun way hw hm => hfree ((h.mem_way_iff hw).mp hm)⟩

theorem attach_eq_ok_iff (h : Linked t kids) :
    t.attach p c = (u, .ok ()) ↔ Linkable t p c ∧ u = t.link p c := by
  refine ⟨h.linkable_of_attach, fun ⟨hl, e⟩ => ?_⟩
  obtain ⟨hp, hc, hroot, hnone, hfree⟩ := h.linkable_iff.mp hl
  rw [← h.isAtOrAbove_iff_atOrBelow hp, Bool.not_eq_true] at hfree
  exact attach_eq_ok.mpr ⟨hp, hc, hroot, hnone, hfree, e⟩

end Linked

/-! ## Adding below a node -/

/-- A node just added is attached as it is when it is added below the node. -/
theorem Linked.addChild_eq (h : Linked t kids) (hp : p < t.size) (content : Content) :
    ∃ u, (t.add content).1.attach p t.size = (u, .ok ()) ∧
      t.addChild p content = (u, .ok t.size) := by
  refine ⟨_, (h.add content).attach_eq_ok_iff.mpr ⟨h.linkable_add hp content, rfl⟩, ?_⟩
  rw [addChild, if_neg (Nat.not_le.mpr hp)]
  rfl

theorem addChild_eq_error (hp : t.size ≤ p) (content : Content) :
    t.addChild p content = (t, .error (.unknownNode p)) := by
  rw [addChild, if_pos hp]

/-- A request as additions and attachments, for a tree of `size` nodes. -/
def Request.spelled (size : Nat) : Request → List Request
  | .addChild parent content =>
    if parent < size then [.add content, .attach parent size] else []
  | r => [r]

/-- Whether a request adds or attaches, and does not do both. -/
def Request.isElementary : Request → Bool
  | .addChild _ _ => false
  | _ => true

theorem Request.isElementary_of_mem_spelled {size : Nat} {r r' : Request}
    (hr : r' ∈ r.spelled size) : r'.isElementary := by
  cases r with
  | add => exact List.mem_singleton.mp hr ▸ rfl
  | attach => exact List.mem_singleton.mp hr ▸ rfl
  | addChild parent content =>
    rw [spelled] at hr
    split at hr
    · obtain rfl | rfl : r' = .add content ∨ r' = .attach parent size := by simpa using hr
      · rfl
      · rfl
    · cases hr

theorem Linked.run_spelled (h : Linked t kids) (r : Request) :
    t.run (r.spelled t.size) = t.step r := by
  cases r with
  | add => rfl
  | attach => rfl
  | addChild parent content =>
    rw [Request.spelled]
    split
    · next hp =>
      obtain ⟨u, hattach, hadd⟩ := h.addChild_eq hp content
      simp only [Tree.run, List.foldl_cons, List.foldl_nil, Tree.step, hattach, hadd]
    · next hp =>
      simp only [Tree.step, addChild_eq_error (Nat.not_lt.mp hp), Tree.run, List.foldl_nil]

/-- Every tree can be built by adding nodes and attaching them. By induction on the requests. -/
theorem Linked.exists_elementary : ∀ {t : Tree} {kids : NodeId → List NodeId}
    (requests : List Request), Linked t kids →
      ∃ requests', (∀ r ∈ requests', r.isElementary) ∧ t.run requests' = t.run requests
  | _, _, [], _ => ⟨[], fun _ hr => absurd hr List.not_mem_nil, rfl⟩
  | t, _, r :: requests, h => by
    obtain ⟨_, hr⟩ := h.step r
    obtain ⟨requests', helementary, hrun⟩ := hr.exists_elementary requests
    refine ⟨r.spelled t.size ++ requests', fun r' hr' => ?_, ?_⟩
    · exact (List.mem_append.mp hr').elim Request.isElementary_of_mem_spelled (helementary r')
    · rw [Tree.run, List.foldl_append]
      show (t.run (r.spelled t.size)).run requests' = _
      rw [h.run_spelled, hrun]
      rfl

theorem Reachable.exists_elementary (ht : t.Reachable) :
    ∃ content requests, (∀ r ∈ requests, Request.isElementary r) ∧
      t = (single content).run requests := by
  obtain ⟨content, requests, rfl⟩ := ht
  obtain ⟨requests', helementary, hrun⟩ := (Linked.single content).exists_elementary requests
  exact ⟨content, requests', helementary, hrun.symm⟩

/-- To add a node below another is to add it and then to attach it, which is never refused; below
a place outside the tree nothing is added. -/
theorem addChild_answers (ht : t.Reachable) (parent : NodeId) (content : Content) :
    (parent < t.size →
      ∃ u, (t.add content).1.attach parent (t.add content).2 = (u, .ok ()) ∧
        t.addChild parent content = (u, .ok (t.add content).2)) ∧
    (t.size ≤ parent → t.addChild parent content = (t, .error (.unknownNode parent))) :=
  ⟨fun hp => ht.linked.addChild_eq hp content, fun hp => addChild_eq_error hp content⟩

/-- A loose list gets a second item below the list, and none below the place that the item would
have. -/
theorem addChild_looseList : looseList.Reachable ∧
    (∃ u, (looseList.add (.text "b")).1.attach 1 3 = (u, .ok ()) ∧
      looseList.addChild 1 (.text "b") = (u, .ok 3) ∧ u.children 1 = [2, 3]) ∧
    looseList.addChild 3 (.text "b") = (looseList, .error (.unknownNode 3)) := by
  have ht : looseList.Reachable := ⟨_, _, rfl⟩
  obtain ⟨u, hattach, hadd⟩ := (addChild_answers ht 1 (.text "b")).1 (by decide)
  refine ⟨ht, ⟨u, hattach, hadd, ?_⟩, (addChild_answers ht 3 (.text "b")).2 (by decide)⟩
  rw [((ht.linked.add _).attach_ok hattach).1]
  decide +kernel

/-! ## Attachments one after another -/

namespace Linked

/-- What stands below a node when `c` has become a child of `p`: what stood there, and if the new
parent does, all that stands below the child. -/
theorem atOrBelow_link (h : Linked t kids) (hl : Linkable t p c) {top : NodeId} :
    (t.link p c).AtOrBelow top id ↔
      t.AtOrBelow top id ∨ t.AtOrBelow top p ∧ t.AtOrBelow c id := by
  constructor
  · intro hb
    -- By induction on the way down: each step is an old one, or the one from `p` to `c`.
    induction hb with
    | refl => exact .inl Relation.ReflTransGen.refl
    | @tail y z _ hz ih =>
      rw [h.children_link hl] at hz
      by_cases hnew : p = y ∧ z = c
      · obtain ⟨rfl, rfl⟩ := hnew
        exact .inr ⟨ih.elim (fun hp => hp) And.left, Relation.ReflTransGen.refl⟩
      · have hold : z ∈ t.children y := by
          split at hz
          · next e =>
            rw [List.mem_append, List.mem_singleton] at hz
            exact hz.resolve_right fun hzc => hnew ⟨e, hzc⟩
          · exact hz
        exact ih.imp (·.tail hold) (And.imp_right (·.tail hold))
  · have hgrows := Grows.link h hl
    have hchild : c ∈ (t.link p c).children p := by
      rw [h.children_link hl, if_pos rfl]
      exact List.mem_append_right _ List.mem_cons_self
    rintro (hb | ⟨hp, hc⟩)
    · exact hgrows.atOrBelow hb
    · exact ((hgrows.atOrBelow hp).tail hchild).trans (hgrows.atOrBelow hc)

/-- A second attachment can be made after a first one if it could be made without it, and if they
do not put each child below the other one. -/
theorem linkable_link_iff (h : Linked t kids) (hl : Linkable t p₁ c₁) (hne : c₁ ≠ c₂) :
    Linkable (t.link p₁ c₁) p₂ c₂ ↔
      Linkable t p₂ c₂ ∧ ¬ (t.AtOrBelow c₂ p₁ ∧ t.AtOrBelow c₁ p₂) := by
  rw [(h.link hl).linkable_iff, h.linkable_iff, h.atOrBelow_link hl, size_link,
    parent?_link hl.lt_child, if_neg hne, not_or]
  simp only [and_assoc]

/-- Two attachments that are granted, one after the other. -/
theorem exists_attach_attach_iff (h : Linked t kids) :
    (∃ u v, t.attach p₁ c₁ = (u, .ok ()) ∧ u.attach p₂ c₂ = (v, .ok ())) ↔
      Linkable t p₁ c₁ ∧ Linkable (t.link p₁ c₁) p₂ c₂ := by
  constructor
  · rintro ⟨u, v, hu, hv⟩
    obtain ⟨hl, rfl⟩ := h.attach_eq_ok_iff.mp hu
    exact ⟨hl, ((h.link hl).attach_eq_ok_iff.mp hv).1⟩
  · rintro ⟨hl, hl'⟩
    exact ⟨_, _, h.attach_eq_ok_iff.mpr ⟨hl, rfl⟩, (h.link hl).attach_eq_ok_iff.mpr ⟨hl', rfl⟩⟩

/-- Whether two attachments are granted does not depend on their order. -/
theorem linkable_link_comm (h : Linked t kids) (hne : c₁ ≠ c₂) :
    Linkable t p₁ c₁ ∧ Linkable (t.link p₁ c₁) p₂ c₂ ↔
      Linkable t p₂ c₂ ∧ Linkable (t.link p₂ c₂) p₁ c₁ := by
  constructor
  · rintro ⟨hl₁, hl₂⟩
    obtain ⟨hl, hfree⟩ := (h.linkable_link_iff hl₁ hne).mp hl₂
    exact ⟨hl, (h.linkable_link_iff hl hne.symm).mpr ⟨hl₁, fun hb => hfree hb.symm⟩⟩
  · rintro ⟨hl₂, hl₁⟩
    obtain ⟨hl, hfree⟩ := (h.linkable_link_iff hl₂ hne.symm).mp hl₁
    exact ⟨hl, (h.linkable_link_iff hl hne).mpr ⟨hl₂, fun hb => hfree hb.symm⟩⟩

end Linked

/-- Child lists that grow for different nodes grow independently. -/
theorem grown_comm (kids : NodeId → List NodeId) (hp : p₁ ≠ p₂) (c₁ c₂ : NodeId) :
    grown (grown kids p₁ c₁) p₂ c₂ = grown (grown kids p₂ c₂) p₁ c₁ := by
  funext q
  by_cases e : p₂ = q
  · simp only [grown, if_pos e, if_neg fun e' : p₁ = q => hp (e'.trans e.symm)]
  · simp only [grown, if_neg e]

/-- The trees have the last two children of a node in different orders, and differ in nothing
else. -/
structure LastTwoSwapped (v w : Tree) (p : NodeId) (before : List NodeId) (c₁ c₂ : NodeId) :
    Prop where
  size_eq : v.size = w.size
  content?_eq : ∀ id, v.content? id = w.content? id
  parent?_eq : ∀ id, v.parent? id = w.parent? id
  children_eq : ∀ q, q ≠ p → v.children q = w.children q
  children_left : v.children p = before ++ [c₁, c₂]
  children_right : w.children p = before ++ [c₂, c₁]
  /-- No link changes but those of the node, of the two, and of the sibling in front of them. -/
  cell?_eq : ∀ id, id ≠ p → id ≠ c₁ → id ≠ c₂ → before.getLast? ≠ some id →
    v.cell? id = w.cell? id

/-- Linking changes the cells of the parent, of the child and of the sibling in front of it. -/
theorem cell?_link_of_ne (hp : id ≠ p) (hc : id ≠ c) (hlast : t.last? p ≠ some id) :
    (t.link p c).cell? id = t.cell? id := by
  have hcell : ∀ cell, relinked (t.last? p) p c id cell = cell := fun cell => by
    simp [relinked, hlast, hp.symm, hc.symm]
  rw [cell?_link, funext hcell, Option.map_id']

namespace Linked

/-- Two nodes linked below one node, in the one order and in the other. -/
theorem lastTwoSwapped_link (h : Linked t kids) (hl₁ : Linkable t p c₁)
    (hl₂ : Linkable (t.link p c₁) p c₂) (hl₂' : Linkable t p c₂)
    (hl₁' : Linkable (t.link p c₂) p c₁) :
    LastTwoSwapped ((t.link p c₁).link p c₂) ((t.link p c₂).link p c₁) p (t.children p) c₁ c₂ where
  size_eq := by simp only [size_link]
  content?_eq id := by simp only [content?_link]
  parent?_eq id := by
    rw [parent?_link hl₂.lt_child, parent?_link hl₁.lt_child, parent?_link hl₁'.lt_child,
      parent?_link hl₂'.lt_child]
    split <;> split <;> rfl
  children_eq q hq := by
    rw [(h.link hl₁).children_link hl₂, h.children_link hl₁, (h.link hl₂').children_link hl₁',
      h.children_link hl₂']
    simp only [if_neg hq.symm]
  children_left := by
    rw [(h.link hl₁).children_link hl₂, h.children_link hl₁, if_pos rfl, if_pos rfl,
      List.append_assoc, List.singleton_append]
  children_right := by
    rw [(h.link hl₂').children_link hl₁', h.children_link hl₂', if_pos rfl, if_pos rfl,
      List.append_assoc, List.singleton_append]
  cell?_eq id hp h₁ h₂ hlast := by
    rw [h.children_eq, ← h.last?_eq] at hlast
    have hlast₁ : (t.link p c₁).last? p ≠ some id := by
      rw [last?_link hl₁.lt_parent, if_pos rfl, ne_eq, Option.some.injEq]
      exact h₁.symm
    have hlast₂ : (t.link p c₂).last? p ≠ some id := by
      rw [last?_link hl₂'.lt_parent, if_pos rfl, ne_eq, Option.some.injEq]
      exact h₂.symm
    rw [cell?_link_of_ne hp h₂ hlast₁, cell?_link_of_ne hp h₁ hlast, cell?_link_of_ne hp h₁ hlast₂,
      cell?_link_of_ne hp h₂ hlast]

/-- Two nodes linked below different nodes. -/
theorem link_link_comm (h : Linked t kids) (hp : p₁ ≠ p₂) (hl₁ : Linkable t p₁ c₁)
    (hl₂ : Linkable (t.link p₁ c₁) p₂ c₂) (hl₂' : Linkable t p₂ c₂)
    (hl₁' : Linkable (t.link p₂ c₂) p₁ c₁) :
    (t.link p₁ c₁).link p₂ c₂ = (t.link p₂ c₂).link p₁ c₁ := by
  have hv := (h.link hl₁).link hl₂
  have hw := (h.link hl₂').link hl₁'
  rw [grown_comm kids hp] at hv
  exact hv.ext hw fun id => by simp only [content?_link]

end Linked

/-- Two attachments are granted in one order if and only if they are in the other. They make the
same tree below different nodes; below one node, the children stand in the order in which they
came. -/
theorem attach_interchange (ht : t.Reachable) (p₁ p₂ : NodeId) (hne : c₁ ≠ c₂) :
    ((∃ u v, t.attach p₁ c₁ = (u, .ok ()) ∧ u.attach p₂ c₂ = (v, .ok ())) ↔
      ∃ u w, t.attach p₂ c₂ = (u, .ok ()) ∧ u.attach p₁ c₁ = (w, .ok ())) ∧
    ∀ u v u' w, t.attach p₁ c₁ = (u, .ok ()) → u.attach p₂ c₂ = (v, .ok ()) →
      t.attach p₂ c₂ = (u', .ok ()) → u'.attach p₁ c₁ = (w, .ok ()) →
        (p₁ ≠ p₂ → v = w) ∧ (p₁ = p₂ → LastTwoSwapped v w p₁ (t.children p₁) c₁ c₂) := by
  have h := ht.linked
  constructor
  · rw [h.exists_attach_attach_iff, h.exists_attach_attach_iff, h.linkable_link_comm hne]
  intro u v u' w hu hv hu' hw
  obtain ⟨hl₁, rfl⟩ := h.attach_eq_ok_iff.mp hu
  obtain ⟨hl₂, rfl⟩ := (h.link hl₁).attach_eq_ok_iff.mp hv
  obtain ⟨hl₂', rfl⟩ := h.attach_eq_ok_iff.mp hu'
  obtain ⟨hl₁', rfl⟩ := (h.link hl₂').attach_eq_ok_iff.mp hw
  refine ⟨fun hp => h.link_link_comm hp hl₁ hl₂ hl₂' hl₁', fun hp => ?_⟩
  subst hp
  exact h.lastTwoSwapped_link hl₁ hl₂ hl₂' hl₁'

/-- A document, and two lists of one item each that are attached nowhere. -/
def looseLists : Tree :=
  (single .document).run
    [.add (.element (.named "ul" [])), .addChild 1 (.element (.named "li" [])),
      .add (.element (.named "ol" [])), .addChild 3 (.element (.named "li" []))]

/-- A list can be put into the item of the other one and this into the document, and both into the
document; neither can be put into the item of the other when the other was put into its own. -/
theorem attach_looseLists : looseLists.Reachable ∧ (3 : NodeId) ≠ 1 ∧
    (∃ v, (looseLists.link 2 3).attach 0 1 = (v, .ok ()) ∧
      (looseLists.link 0 1).attach 2 3 = (v, .ok ())) ∧
    LastTwoSwapped ((looseLists.link 0 3).link 0 1) ((looseLists.link 0 1).link 0 3) 0 [] 3 1 ∧
    ((looseLists.link 2 3).attach 4 1).2 = .error (.cycle 1) ∧
    ¬ ∃ u w, looseLists.attach 4 1 = (u, .ok ()) ∧ u.attach 2 3 = (w, .ok ()) := by
  have ht : looseLists.Reachable := ⟨_, _, rfl⟩
  have hne : (3 : NodeId) ≠ 1 := by decide
  obtain ⟨-, hapart⟩ := attach_interchange ht 2 0 hne
  obtain ⟨-, htogether⟩ := attach_interchange ht 0 0 hne
  obtain ⟨hcycle, -⟩ := attach_interchange ht 2 4 hne
  have hchildren : looseLists.children 0 = [] := by decide +kernel
  refine ⟨ht, hne, ⟨_, rfl, ?_⟩, ?_, rfl, fun hw => ?_⟩
  · rw [(hapart _ _ _ _ rfl rfl rfl rfl).1 (by decide)]
    rfl
  · exact hchildren ▸ (htogether _ _ _ _ rfl rfl rfl rfl).2 rfl
  · obtain ⟨u, v, hu, hv⟩ := hcycle.mpr hw
    obtain rfl : looseLists.link 2 3 = u := (Prod.mk.inj hu).1
    exact absurd (Prod.mk.inj hv).2 nofun

end Hypertext.Tree
