import Hypertext.Document.Draft

/-!
# Drafts with empty leaves

While a document is being read, parts are added to parts: to the document and to elements, but
never to a text, and neither to a void element of HTML. A draft is sound (`Draft.Sound`) if these
are empty and no link that parts are added along leads to one of them: neither that from a part
to its parent, beside which others are put, nor that from a template to its contents.

An operation makes a draft grow (`Draft.Grows`): it stays sound, and what could have children
before can have them still. One lemma says so of a change of one entry (`Draft.Sound.modify`) and
one of a new part (`Draft.Sound.create`); the other operations consist of these.
-/

namespace Hypertext.Document

/-- Whether this is the name of a void element of HTML. -/
def Name.isVoid (q : Name) : Bool :=
  q.vocabulary == .html && Tag.isVoid (Tag.ofName? q.name)

namespace Part

/-- Whether a part can have children: the document and an element can, unless it is a void
element of HTML. -/
def canHold : Part → Bool
  | .document => true
  | .element name _ => !name.isVoid
  | _ => false

/-- A part without its text and its attributes, which may still change. -/
def bare : Part → Part
  | .text _ => .text ""
  | .element name _ => .element name []
  | part => part

theorem canHold_eq_of_bare_eq {p q : Part} (h : p.bare = q.bare) : p.canHold = q.canHold := by
  cases p <;> cases q <;> simp_all [bare, canHold]

theorem eq_document_of_bare_eq {p : Part} (h : p.bare = Part.document.bare) : p = .document := by
  cases p <;> simp_all [bare]

end Part

namespace Draft

variable {d d' d'' : Draft} {id parent : PartId}

theorem entry_modify (d : Draft) (id : PartId) (f : Entry → Entry) (x : PartId) :
    entry? (d.modify id f) x = if id = x then (d.entry? x).map f else d.entry? x := by
  simp only [modify, entry?, Array.getElem?_modify]

theorem entry_create (d : Draft) (part : Part) (x : PartId) :
    entry? (d.create part).1 x =
      if x = (d.create part).2 then some { part } else d.entry? x := by
  exact Array.getElem?_push

/-- The part is there, and can have children. -/
def CanHold (d : Draft) (id : PartId) : Prop :=
  ∃ e, d.entry? id = some e ∧ e.part.canHold

/-- A part that cannot have children has none, and its links lead to parts that can. -/
structure Entry.Sound (d : Draft) (e : Entry) : Prop where
  empty : e.part.canHold = false → e.children = #[]
  parent : ∀ p, e.parent = some p → d.CanHold p
  contents : ∀ c, e.contents = some c → d.CanHold c

/-- A part that was just made has no children and no links. -/
theorem Entry.sound_new (d : Draft) (part : Part) : Entry.Sound d { part } :=
  ⟨fun _ => rfl, fun _ hp => (nomatch hp), fun _ hc => (nomatch hc)⟩

/-- Every entry is sound, and the first one is the document. -/
structure Sound (d : Draft) : Prop where
  entry : ∀ id e, d.entry? id = some e → e.Sound d
  top : ∃ e, d.entry? document = some e ∧ e.part = .document

/-- The draft that comes after an operation is sound, and what could have children still can. -/
structure Grows (d d' : Draft) : Prop where
  sound : d'.Sound
  canHold : ∀ id, d.CanHold id → d'.CanHold id

theorem Grows.trans (h : d.Grows d') (h' : d'.Grows d'') : d.Grows d'' :=
  ⟨h'.sound, fun id hid => h'.canHold id (h.canHold id hid)⟩

theorem Sound.refl (h : d.Sound) : d.Grows d :=
  ⟨h, fun _ hid => hid⟩

theorem Sound.empty : Draft.empty.Sound where
  entry id e he := by
    obtain ⟨hlt, he⟩ := Array.getElem?_eq_some_iff.mp he
    obtain rfl : id = 0 := Nat.lt_one_iff.mp hlt
    exact he ▸ Entry.sound_new Draft.empty .document
  top := ⟨_, rfl, rfl⟩

theorem Sound.canHold_document (h : d.Sound) : d.CanHold document := by
  obtain ⟨e, he, hpart⟩ := h.top
  exact ⟨e, he, by rw [hpart]; rfl⟩

theorem Sound.canHold_parent (h : d.Sound) (hp : d.parent? id = some parent) :
    d.CanHold parent := by
  obtain ⟨e, he, hp⟩ := Option.bind_eq_some_iff.mp hp
  exact (h.entry id e he).parent parent hp

/-- Where the contents of a template are kept, or else the part itself. -/
theorem Sound.canHold_contents (h : d.Sound) (hid : d.CanHold id) :
    d.CanHold (((d.entry? id).bind (·.contents)).getD id) := by
  cases hc : (d.entry? id).bind (·.contents) with
  | none => exact hid
  | some c =>
    obtain ⟨e, he, hc⟩ := Option.bind_eq_some_iff.mp hc
    exact (h.entry id e he).contents c hc

theorem Entry.Sound.mono {e : Entry} (h : e.Sound d)
    (hd : ∀ id, d.CanHold id → d'.CanHold id) : e.Sound d' :=
  ⟨h.empty, fun p hp => hd p (h.parent p hp), fun c hc => hd c (h.contents c hc)⟩

/-! ## One entry -/

/-- A change of one entry that keeps it sound. -/
theorem Sound.modify (h : d.Sound) {f : Entry → Entry}
    (hf : ∀ e, d.entry? id = some e → e.Sound d →
      (f e).part.bare = e.part.bare ∧ (f e).Sound d) : d.Grows (d.modify id f) := by
  have hbare : ∀ x e, d.entry? x = some e →
      ∃ e', entry? (d.modify id f) x = some e' ∧ e'.part.bare = e.part.bare := by
    intro x e he
    rw [entry_modify]
    by_cases hx : id = x
    · subst hx
      rw [if_pos rfl, he, Option.map_some]
      exact ⟨f e, rfl, (hf e he (h.entry id e he)).1⟩
    · rw [if_neg hx]
      exact ⟨e, he, rfl⟩
  have hcan : ∀ x, d.CanHold x → (d.modify id f).CanHold x := by
    rintro x ⟨e, he, hholds⟩
    obtain ⟨e', he', hsame⟩ := hbare x e he
    exact ⟨e', he', Part.canHold_eq_of_bare_eq hsame ▸ hholds⟩
  refine ⟨⟨fun x e' he' => ?_, ?_⟩, hcan⟩
  · rw [entry_modify] at he'
    by_cases hx : id = x
    · subst hx
      rw [if_pos rfl] at he'
      obtain ⟨e, he, rfl⟩ := Option.map_eq_some_iff.mp he'
      exact (hf e he (h.entry id e he)).2.mono hcan
    · rw [if_neg hx] at he'
      exact (h.entry x e' he').mono hcan
  · obtain ⟨e, he, hpart⟩ := h.top
    obtain ⟨e', he', hsame⟩ := hbare document e he
    exact ⟨e', he', Part.eq_document_of_bare_eq (hpart ▸ hsame)⟩

/-- A new part without a place. -/
theorem Sound.create (h : d.Sound) (part : Part) : d.Grows (d.create part).1 := by
  have hold : ∀ x e, d.entry? x = some e → entry? (d.create part).1 x = some e := by
    intro x e he
    have hlt : x < (d.create part).2 := (Array.getElem?_eq_some_iff.mp he).1
    rw [entry_create, if_neg (Nat.ne_of_lt hlt), he]
  have hcan : ∀ x, d.CanHold x → (d.create part).1.CanHold x := fun x ⟨e, he, hholds⟩ =>
    ⟨e, hold x e he, hholds⟩
  refine ⟨⟨fun x e he => ?_, ?_⟩, hcan⟩
  · rw [entry_create] at he
    by_cases hx : x = (d.create part).2
    · rw [if_pos hx] at he
      obtain rfl := Option.some.inj he
      exact Entry.sound_new _ part
    · rw [if_neg hx] at he
      exact (h.entry x e he).mono hcan
  · obtain ⟨e, he, hpart⟩ := h.top
    exact ⟨e, hold document e he, hpart⟩

theorem canHold_create {part : Part} (hpart : part.canHold) :
    (d.create part).1.CanHold (d.create part).2 :=
  ⟨{ part }, by rw [entry_create, if_pos rfl], hpart⟩

/-! ## The other operations -/

/-- A new place for the contents of a template. -/
theorem Sound.modifyContents (h : d.Sound) {contents : PartId} (hc : d.CanHold contents)
    (id : PartId) : d.Grows (d.modify id fun e => { e with contents := some contents }) :=
  h.modify fun _ _ he => ⟨rfl, he.empty, he.parent, fun _ hc' => Option.some.inj hc' ▸ hc⟩

theorem Sound.createElement (h : d.Sound) (name : Name) (attributes : List Attribute) :
    d.Grows (d.createElement name attributes).1 ∧
      (name.isVoid = false →
        (d.createElement name attributes).1.CanHold (d.createElement name attributes).2) := by
  have hpart : name.isVoid = false → (Part.element name attributes).canHold := fun hv => by
    rw [Part.canHold, hv]
    rfl
  rw [Draft.createElement]
  split
  · have hcontents := h.create .document
    have helement := hcontents.sound.create (.element name attributes)
    have hheld := helement.canHold _ (@canHold_create d .document rfl)
    have hlinked := helement.sound.modifyContents hheld
      ((d.create .document).1.create (.element name attributes)).2
    exact ⟨hcontents.trans (helement.trans hlinked),
      fun hv => hlinked.canHold _ (canHold_create (hpart hv))⟩
  · exact ⟨h.create _, fun hv => canHold_create (hpart hv)⟩

theorem Sound.detach (h : d.Sound) (id : PartId) : d.Grows (d.detach id) := by
  rw [Draft.detach]
  split
  · exact h.refl
  · next p hp =>
    have hout : d.Grows (d.modify p fun e => { e with children := e.children.filter (· != id) }) :=
      h.modify fun e _ he => ⟨rfl, fun hv => by rw [he.empty hv]; rfl, he.parent, he.contents⟩
    exact hout.trans (hout.sound.modify fun e _ he =>
      ⟨rfl, he.empty, fun _ hp => (nomatch hp), he.contents⟩)

/-- A change of the children of a part that can have some, and of nothing else. -/
theorem Sound.modifyChildren (h : d.Sound) (hid : d.CanHold id)
    (change : Array PartId → Array PartId) :
    d.Grows (d.modify id fun e => { e with children := change e.children }) := by
  refine h.modify fun e he hsound => ⟨rfl, fun hv => ?_, hsound.parent, hsound.contents⟩
  obtain ⟨e', he', hholds⟩ := hid
  obtain rfl := Option.some.inj (he.symm.trans he')
  rw [hholds] at hv
  cases hv

/-- A new parent for a part. -/
theorem Sound.modifyParent (h : d.Sound) (hp : d.CanHold parent) (id : PartId) :
    d.Grows (d.modify id fun e => { e with parent := some parent }) :=
  h.modify fun _ _ he => ⟨rfl, he.empty, fun _ hp' => Option.some.inj hp' ▸ hp, he.contents⟩

theorem Sound.append (h : d.Sound) (hp : d.CanHold parent) (id : PartId) :
    d.Grows (d.append parent id) :=
  have hin := h.modifyChildren hp (·.push id)
  hin.trans (hin.sound.modifyParent (hin.canHold parent hp) id)

theorem Sound.insertBefore (h : d.Sound) (sibling id : PartId) :
    d.Grows (d.insertBefore sibling id) := by
  rw [Draft.insertBefore]
  split
  · exact h.refl
  · next p hp =>
    have hheld := h.canHold_parent hp
    have hin := h.modifyChildren hheld fun children =>
      (children.toList.takeWhile (· != sibling) ++ id ::
        children.toList.dropWhile (· != sibling)).toArray
    exact hin.trans (hin.sound.modifyParent (hin.canHold p hheld) id)

theorem Sound.extendText (h : d.Sound) (id : PartId) (data : String) :
    d.Grows (d.extendText id data) := by
  refine h.modify fun e _ he => ?_
  obtain ⟨part, parent, children, contents⟩ := e
  cases part with
  | text old => exact ⟨rfl, he.empty, he.parent, he.contents⟩
  | _ => exact ⟨rfl, he⟩

theorem Sound.addMissing (h : d.Sound) (id : PartId) (attributes : List Attribute) :
    d.Grows (d.addMissing id attributes) := by
  refine h.modify fun e _ he => ?_
  obtain ⟨part, parent, children, contents⟩ := e
  cases part with
  | element name old => exact ⟨rfl, he.empty, he.parent, he.contents⟩
  | _ => exact ⟨rfl, he⟩

/-- A new part at the end of another. -/
theorem Sound.appendNew (h : d.Sound) (hp : d.CanHold parent) (part : Part) :
    d.Grows ((d.create part).1.append parent (d.create part).2) :=
  have hnew := h.create part
  hnew.trans (hnew.sound.append (hnew.canHold parent hp) _)

theorem Sound.appendText (h : d.Sound) (hp : d.CanHold parent) (data : String) :
    d.Grows (d.appendText parent data) := by
  rw [Draft.appendText]
  split
  · split
    · exact h.extendText _ data
    · exact h.appendNew hp _
  · exact h.appendNew hp _

theorem Sound.insertTextBefore (h : d.Sound) (sibling : PartId) (data : String) :
    d.Grows (d.insertTextBefore sibling data) := by
  have hnew := h.create (.text data)
  have hfresh := hnew.trans (hnew.sound.insertBefore sibling (d.create (.text data)).2)
  rw [Draft.insertTextBefore]
  split
  · split
    · exact h.extendText _ data
    · exact hfresh
  · exact hfresh

/-- New parents for parts one after another. -/
theorem Sound.foldl_modifyParent : ∀ (ids : List PartId) {d : Draft}, d.Sound →
    d.CanHold parent →
      d.Grows (ids.foldl (fun d id => d.modify id fun e => { e with parent := some parent }) d)
  | [], _, h, _ => h.refl
  | id :: ids, _, h, hp =>
    have hfirst := h.modifyParent hp id
    hfirst.trans (foldl_modifyParent ids hfirst.sound (hfirst.canHold parent hp))

theorem Sound.moveChildren (h : d.Sound) {target : PartId} (ht : d.CanHold target)
    (source : PartId) : d.Grows (d.moveChildren source target) := by
  have hout : d.Grows (d.modify source fun e => { e with children := #[] }) :=
    h.modify fun _ _ he => ⟨rfl, fun _ => rfl, he.parent, he.contents⟩
  have hin := hout.sound.modifyChildren (hout.canHold target ht) (· ++ d.children source)
  have hboth := hout.trans hin
  rw [Draft.moveChildren, ← Array.foldl_toList]
  exact hboth.trans (Sound.foldl_modifyParent _ hboth.sound (hboth.canHold target ht))

/-- What is in an element goes into a new one inside it. -/
theorem Sound.wrapChildren (h : d.Sound) {name : Name} (hv : name.isVoid = false)
    (hid : d.CanHold id) (attributes : List Attribute) {new : Draft × PartId}
    (hnew : d.createElement name attributes = new) :
    d.Grows ((new.1.moveChildren id new.2).append id new.2) ∧
      ((new.1.moveChildren id new.2).append id new.2).CanHold new.2 := by
  obtain ⟨hgrows, hheld⟩ := h.createElement name attributes
  rw [hnew] at hgrows hheld
  have hmoved := hgrows.sound.moveChildren (hheld hv) id
  have hin := hmoved.sound.append (hmoved.canHold id (hgrows.canHold id hid)) new.2
  exact ⟨hgrows.trans (hmoved.trans hin), hin.canHold _ (hmoved.canHold _ (hheld hv))⟩

end Draft

end Hypertext.Document
