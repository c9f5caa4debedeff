import Hypertext.Tree

/-!
# What adding and linking change

The links and contents of a tree, node by node, after `add` and `link`.

* A node that was added has no links, so the links of the tree are as they were (`parent?_add`
  and so on); it holds what it was given (`content?_add`).
* `link` changes the parent and the siblings of the child, the next sibling of the last child
  so far, and the ends of the child list of the parent (`cell?_link`, and link by link
  `parent?_link`, `prev?_link`, `next?_link`, `first?_link`, `last?_link`). It changes no
  content (`content?_link`).
-/

namespace Hypertext.Tree

variable {t : Tree} {id parent child : NodeId}

theorem cell?_add (t : Tree) (c : Content) (id : NodeId) :
    (t.add c).1.cell? id = if id = t.size then some { content := c } else t.cell? id := by
  exact Array.getElem?_push

theorem cell?_modify (t : Tree) (at_ id : NodeId) (f : Cell → Cell) :
    (t.modify at_ f).cell? id = if at_ = id then (t.cell? id).map f else t.cell? id := by
  simp only [modify, cell?, Array.getElem?_modify]

theorem cell?_eq_none : t.cell? id = none ↔ t.size ≤ id := by
  simp only [cell?, size, Array.getElem?_eq_none_iff]

theorem exists_cell (h : id < t.size) : ∃ cell, t.cell? id = some cell :=
  Option.ne_none_iff_exists'.mp fun e => absurd (cell?_eq_none.mp e) (Nat.not_le.mpr h)

theorem lt_size_of_cell {cell : Cell} (h : t.cell? id = some cell) : id < t.size :=
  Nat.lt_of_not_le fun hle => by rw [cell?_eq_none.mpr hle] at h; cases h

/-- A link leads away from a node of the tree. -/
theorem lt_size_of_link {link : Cell → Option NodeId} {target : NodeId}
    (h : (t.cell? id).bind link = some target) : id < t.size := by
  obtain ⟨cell, hc, -⟩ := Option.bind_eq_some_iff.mp h
  exact lt_size_of_cell hc

theorem content?_eq_none : t.content? id = none ↔ t.size ≤ id := by
  rw [content?, Option.map_eq_none_iff, cell?_eq_none]

/-! ## Adding -/

theorem bind_cell?_add (t : Tree) (c : Content) (id : NodeId) {link : Cell → Option NodeId}
    (hl : link { content := c } = none) :
    ((t.add c).1.cell? id).bind link = (t.cell? id).bind link := by
  rw [cell?_add]
  split
  · next e => rw [cell?_eq_none.mpr (Nat.le_of_eq e.symm), Option.bind_some, hl, Option.bind_none]
  · rfl

@[simp] theorem parent?_add (t : Tree) (c : Content) (id : NodeId) :
    (t.add c).1.parent? id = t.parent? id := bind_cell?_add t c id rfl

@[simp] theorem first?_add (t : Tree) (c : Content) (id : NodeId) :
    (t.add c).1.first? id = t.first? id := bind_cell?_add t c id rfl

@[simp] theorem last?_add (t : Tree) (c : Content) (id : NodeId) :
    (t.add c).1.last? id = t.last? id := bind_cell?_add t c id rfl

@[simp] theorem prev?_add (t : Tree) (c : Content) (id : NodeId) :
    (t.add c).1.prev? id = t.prev? id := bind_cell?_add t c id rfl

@[simp] theorem next?_add (t : Tree) (c : Content) (id : NodeId) :
    (t.add c).1.next? id = t.next? id := bind_cell?_add t c id rfl

theorem content?_add (t : Tree) (c : Content) (id : NodeId) :
    (t.add c).1.content? id = if id = t.size then some c else t.content? id := by
  simp only [content?, cell?_add]
  split <;> rfl

/-! ## Linking -/

/-- The cell of `id` after `child` was linked below `parent`, behind the last child so far. -/
def relinked (last : Option NodeId) (parent child id : NodeId) (cell : Cell) : Cell :=
  { cell with
    parent := if child = id then some parent else cell.parent
    prev := if child = id then last else cell.prev
    next := if last = some id then some child else if child = id then none else cell.next
    first := if parent = id ∧ last = none then some child else cell.first
    last := if parent = id then some child else cell.last }

theorem cell?_link (t : Tree) (parent child id : NodeId) :
    (t.link parent child).cell? id =
      (t.cell? id).map (relinked (t.last? parent) parent child id) := by
  simp only [link]
  cases t.last? parent with
  | none =>
    simp only [cell?_modify]
    cases t.cell? id with
    | none => split <;> split <;> rfl
    | some cell =>
      by_cases hc : child = id <;> by_cases hp : parent = id <;> simp [relinked, hc, hp]
  | some last =>
    simp only [cell?_modify]
    cases t.cell? id with
    | none => split <;> split <;> split <;> rfl
    | some cell =>
      by_cases hc : child = id <;> by_cases hp : parent = id <;> by_cases hl : last = id <;>
        simp [relinked, hc, hp, hl]

@[simp] theorem content?_link (t : Tree) (parent child id : NodeId) :
    (t.link parent child).content? id = t.content? id := by
  rw [content?, cell?_link, Option.map_map]
  rfl

/-- A link of `id` that linking sets under a condition, and keeps otherwise. -/
theorem bind_cell?_link {link : Cell → Option NodeId} {target : Option NodeId} {p : Prop}
    [Decidable p] (hlt : p → id < t.size)
    (h : ∀ cell, link (relinked (t.last? parent) parent child id cell) =
      if p then target else link cell) :
    ((t.link parent child).cell? id).bind link =
      if p then target else (t.cell? id).bind link := by
  rw [cell?_link, Option.bind_map]
  simp only [Function.comp_def, h]
  split
  · next hp =>
    obtain ⟨cell, hc⟩ := exists_cell (hlt hp)
    rw [hc, Option.bind_some]
  · rfl

theorem parent?_link (hc : child < t.size) (id : NodeId) :
    (t.link parent child).parent? id = if child = id then some parent else t.parent? id :=
  bind_cell?_link (fun e => e ▸ hc) fun _ => rfl

theorem prev?_link (hc : child < t.size) (id : NodeId) :
    (t.link parent child).prev? id = if child = id then t.last? parent else t.prev? id :=
  bind_cell?_link (fun e => e ▸ hc) fun _ => rfl

theorem last?_link (hp : parent < t.size) (id : NodeId) :
    (t.link parent child).last? id = if parent = id then some child else t.last? id :=
  bind_cell?_link (fun e => e ▸ hp) fun _ => rfl

theorem first?_link (hp : parent < t.size) (id : NodeId) :
    (t.link parent child).first? id =
      if parent = id ∧ t.last? parent = none then some child else t.first? id :=
  bind_cell?_link (fun e => e.1 ▸ hp) fun _ => rfl

/-- The child, which had no next sibling, gets none. -/
theorem next?_link (hn : t.next? child = none)
    (hl : ∀ last, t.last? parent = some last → last < t.size) (id : NodeId) :
    (t.link parent child).next? id =
      if t.last? parent = some id then some child else t.next? id := by
  rw [next?, cell?_link, Option.bind_map]
  split
  · next e =>
    obtain ⟨cell, hc⟩ := exists_cell (hl id e)
    simp [hc, relinked, e]
  · next e =>
    by_cases hc : child = id
    · subst hc
      rw [hn]
      cases t.cell? child <;> simp [relinked, e]
    · simp only [Function.comp_def, relinked, if_neg e, if_neg hc]
      rfl

end Hypertext.Tree
