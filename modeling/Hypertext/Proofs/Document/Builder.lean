import Hypertext.Document.Rules.Adoption
import Hypertext.Proofs.Document.Draft

/-!
# Builders that keep void elements empty

A builder adds parts to its open elements, to the parents of tables, and to what it finds in its
lists of elements that may be opened again. It is sound (`Builder.Sound`) if its draft is and if
all of these can have children. What it consists of besides does not matter, so operations on the
other fields keep it sound by definition.

* `Builder.Sound.of_subset`: ending elements keeps a builder sound.
* `Builder.Sound.insert`: so does a new part in the place that the builder has for it, and unless
  the part is void it can have children then.
* `Builder.Sound.endFormatting`: so does the division of formatting elements.
-/

namespace Hypertext.Document

/-- The element can have children when it is started again. -/
def Formatting.CanHold : Formatting → Prop
  | .mark => True
  | .element _ tag => (Name.html tag.name).isVoid = false

namespace Builder

variable {b : Builder} {id : PartId} {name : String} {tag : StartTag} {q : Name}

/-- The draft is sound, and can have children where more parts may be added. -/
structure Holds (d : Draft) (stack : List PartId) (formatting : List Formatting)
    (head : Option PartId) : Prop where
  draft : d.Sound
  stack : ∀ id ∈ stack, d.CanHold id
  formatting : ∀ f ∈ formatting, f.CanHold
  head : ∀ id, head = some id → d.CanHold id

/-- No part will be added to a void element. -/
def Sound (b : Builder) : Prop :=
  Holds b.draft b.stack b.formatting b.head

namespace Sound

theorem start : Sound {} where
  draft := .empty
  stack _ hid := absurd hid List.not_mem_nil
  formatting _ hf := absurd hf List.not_mem_nil
  head _ hid := nomatch hid

theorem ite {c : Prop} [Decidable c] {x y : Builder} (hx : x.Sound) (hy : y.Sound) :
    (if c then x else y).Sound := by
  split
  · exact hx
  · exact hy

/-! ## Ending elements -/

theorem of_subset (h : b.Sound) {stack : List PartId} (hs : ∀ id ∈ stack, id ∈ b.stack) :
    Sound { b with stack } :=
  ⟨h.draft, fun id hid => h.stack id (hs id hid), h.formatting, h.head⟩

theorem pop (h : b.Sound) : b.pop.Sound :=
  h.of_subset fun _ => List.mem_of_mem_drop

theorem popThrough (h : b.Sound) (name : String) : (b.popThrough name).Sound :=
  h.of_subset fun _ hid => (List.dropWhile_subset _) (List.mem_of_mem_drop hid)

theorem popThroughAny (h : b.Sound) (set : Name → Bool) : (b.popThroughAny set).Sound :=
  h.of_subset fun _ hid => (List.dropWhile_subset _) (List.mem_of_mem_drop hid)

theorem popTo (h : b.Sound) (set : Name → Bool) : (b.popTo set).Sound :=
  h.of_subset fun _ hid => (List.dropWhile_subset _) hid

theorem popWhile (h : b.Sound) (set : Name → Bool) : (b.popWhile set).Sound :=
  h.of_subset fun _ hid => (List.dropWhile_subset _) hid

theorem endImplied (h : b.Sound) : b.endImplied.Sound :=
  h.popWhile _

theorem endImpliedExcept (h : b.Sound) (name : String) : (b.endImpliedExcept name).Sound :=
  h.popWhile _

theorem close (h : b.Sound) (name : String) : (b.close name).Sound :=
  (h.endImpliedExcept name).popThrough name

theorem closeParagraph (h : b.Sound) : b.closeParagraph.Sound :=
  (h.close "p").ite h

theorem removeOpen (h : b.Sound) (id : PartId) : (b.removeOpen id).Sound :=
  h.of_subset fun _ => List.mem_of_mem_erase

/-! ## Fields that do not matter -/

theorem enter (h : b.Sound) (mode : Mode) : (b.enter mode).Sound := h

theorem noFrameset (h : b.Sound) : b.noFrameset.Sound := h

theorem resetMode (h : b.Sound) : b.resetMode.Sound := h

theorem dropNewline (h : b.Sound) : Sound { b with dropNewline := true } := h

/-! ## Places -/

theorem canHold_current (h : b.Sound) : b.draft.CanHold (b.current?.getD Draft.document) := by
  cases hc : b.current? with
  | none => exact h.draft.canHold_document
  | some id => exact h.stack id (List.mem_of_head? hc)

theorem canHold_root (h : b.Sound) : b.draft.CanHold (b.root?.getD Draft.document) := by
  cases hr : b.root? with
  | none => exact h.draft.canHold_document
  | some id => exact h.stack id (List.mem_of_getLast? hr)

end Sound

/-- What is put into this place does not become the child of a void element. -/
def Place.Sound (d : Draft) : Place → Prop
  | .lastIn parent => d.CanHold parent
  | .besideTable _ around => d.CanHold around

namespace Sound

theorem headD (h : b.Sound) {ids : List PartId} (hids : ∀ id ∈ ids, b.draft.CanHold id) :
    b.draft.CanHold (ids.headD Draft.document) := by
  cases ids with
  | nil => exact h.draft.canHold_document
  | cons id ids => exact hids id List.mem_cons_self

theorem fosterPlace (h : b.Sound) : ∀ {ids : List PartId}, (∀ id ∈ ids, b.draft.CanHold id) →
    (b.fosterPlace ids).Sound b.draft
  | [], _ => h.canHold_root
  | id :: ids, hids => by
    have hrest := fun x hx => hids x (List.mem_cons_of_mem id hx)
    rw [Builder.fosterPlace]
    split
    · exact h.draft.canHold_contents (hids id List.mem_cons_self)
    · split
      · exact h.headD hrest
      · exact h.fosterPlace hrest

theorem placeIn (h : b.Sound) {target : PartId} (ht : b.draft.CanHold target) :
    (b.placeIn target).Sound b.draft := by
  rw [Builder.placeIn]
  split
  · exact h.fosterPlace h.stack
  · split
    · exact h.draft.canHold_contents ht
    · exact ht

theorem place (h : b.Sound) : b.place.Sound b.draft :=
  h.placeIn h.canHold_current

/-! ## Adding parts -/

/-- More parts in the draft. -/
theorem grow (h : b.Sound) {d : Draft} (hd : b.draft.Grows d) : Sound { b with draft := d } :=
  ⟨hd.sound, fun id hid => hd.canHold id (h.stack id hid), h.formatting,
    fun id hid => hd.canHold id (h.head id hid)⟩

theorem grows_put (h : b.Sound) {p : Place} (hp : p.Sound b.draft) (id : PartId) :
    b.draft.Grows (b.put p id).draft := by
  cases p with
  | lastIn parent => exact h.draft.append hp id
  | besideTable table around =>
    simp only [put]
    split
    · exact h.draft.insertBefore table id
    · exact h.draft.append hp id

theorem put (h : b.Sound) {p : Place} (hp : p.Sound b.draft) (id : PartId) : (b.put p id).Sound :=
  h.grow (h.grows_put hp id)

/-- A new element in its place. Unless it is void, it can have children. -/
theorem insert (h : b.Sound) (q : Name) (attributes : List Attribute) :
    (b.insert q attributes).1.Sound ∧
      (q.isVoid = false →
        (b.insert q attributes).1.draft.CanHold (b.insert q attributes).2) := by
  obtain ⟨hgrows, hheld⟩ := h.draft.createElement q attributes
  have hnew := h.grow hgrows
  have hput := hnew.grows_put hnew.place (b.draft.createElement q attributes).2
  exact ⟨hnew.grow hput, fun hv => hput.canHold _ (hheld hv)⟩

theorem push (h : b.Sound) (hid : b.draft.CanHold id) : Sound { b with stack := id :: b.stack } :=
  ⟨h.draft, List.forall_mem_cons.mpr ⟨hid, h.stack⟩, h.formatting, h.head⟩

theorem startElement (h : b.Sound) (hv : q.isVoid = false) (attributes : List Attribute) :
    (b.start q attributes).Sound :=
  (h.insert q attributes).1.push ((h.insert q attributes).2 hv)

theorem startTag (h : b.Sound) (hv : (Name.html tag.name).isVoid = false) :
    (b.startTag tag).Sound :=
  h.startElement hv _

theorem startImplied (h : b.Sound) (hv : (Name.html name).isVoid = false) :
    (b.startImplied name).Sound :=
  h.startElement hv _

theorem addVoid (h : b.Sound) (tag : StartTag) : (b.addVoid tag).Sound :=
  (h.insert _ _).1

theorem startText (h : b.Sound) (hv : (Name.html tag.name).isVoid = false) :
    (b.startText tag).Sound :=
  h.startTag hv

theorem startRoot (h : b.Sound) (attributes : List Attribute) : (b.startRoot attributes).Sound := by
  obtain ⟨hgrows, hheld⟩ := h.draft.createElement (Name.html "html") attributes
  have hput := hgrows.sound.append hgrows.sound.canHold_document
    (b.draft.createElement (Name.html "html") attributes).2
  exact (h.grow (hgrows.trans hput)).push (hput.canHold _ (hheld (by decide)))

theorem addText (h : b.Sound) (data : List Char) : (b.addText data).Sound := by
  have hplace := h.place
  refine h.grow ?_
  cases hp : b.place with
  | lastIn parent =>
    rw [hp] at hplace
    exact h.draft.appendText hplace _
  | besideTable table around =>
    rw [hp] at hplace
    dsimp only
    split
    · exact h.draft.insertTextBefore table _
    · exact h.draft.appendText hplace _

theorem addComment (h : b.Sound) (data : String) : (b.addComment data).Sound :=
  have hnew := h.grow (h.draft.create (.comment data))
  hnew.put hnew.place _

theorem addCommentTo (h : b.Sound) {parent : PartId} (hp : b.draft.CanHold parent)
    (data : String) : (b.addCommentTo parent data).Sound :=
  h.grow (h.draft.appendNew hp _)

/-! ## Formatting elements -/

theorem of_formatting (h : b.Sound) {formatting : List Formatting}
    (hf : ∀ f ∈ formatting, f.CanHold) : Sound { b with formatting } :=
  ⟨h.draft, h.stack, hf, h.head⟩

theorem forgetToMark (h : b.Sound) : b.forgetToMark.Sound :=
  h.of_formatting fun f hf => h.formatting f (List.dropWhile_subset _ (List.mem_of_mem_drop hf))

theorem mark (h : b.Sound) : b.mark.Sound :=
  h.of_formatting (List.forall_mem_cons.mpr ⟨trivial, h.formatting⟩)

theorem forget (h : b.Sound) (id : PartId) : (b.forget id).Sound :=
  h.of_formatting fun f hf => h.formatting f (List.mem_filter.mp hf).1

/-- One element is remembered in place of another. -/
theorem forall_canHold_map {fs : List Formatting} (h : ∀ f ∈ fs, f.CanHold)
    (hv : (Name.html tag.name).isVoid = false) (id copy : PartId) :
    ∀ f ∈ fs.map fun f => if f.isElement id then .element copy tag else f, f.CanHold := by
  intro f hf
  obtain ⟨f, hmem, rfl⟩ := List.mem_map.mp hf
  split
  · exact hv
  · exact h f hmem

theorem restart : ∀ (pending : List Formatting) {b : Builder} {settled : List Formatting},
    b.Sound → (∀ f ∈ settled, f.CanHold) → (∀ f ∈ pending, f.CanHold) →
      (b.restart settled pending).Sound
  | [], _, _, h, hs, _ => h.of_formatting hs
  | .mark :: rest, _, _, h, hs, hp => by
    obtain ⟨-, hrest⟩ := List.forall_mem_cons.mp hp
    exact restart rest h (List.forall_mem_cons.mpr ⟨trivial, hs⟩) hrest
  | .element _ tag :: rest, _, _, h, hs, hp => by
    obtain ⟨hv, hrest⟩ := List.forall_mem_cons.mp hp
    exact restart rest (h.startElement hv tag.attributes)
      (List.forall_mem_cons.mpr ⟨hv, hs⟩) hrest

theorem restartFormatting (h : b.Sound) : b.restartFormatting.Sound :=
  restart _ h (fun f hf => h.formatting f (List.mem_of_mem_drop hf))
    fun f hf => h.formatting f (List.takeWhile_subset _ (List.mem_reverse.mp hf))

theorem startFormatting (h : b.Sound) (hv : (Name.html tag.name).isVoid = false) :
    (b.startFormatting tag).Sound := by
  have hstart : ∀ {b : Builder}, b.Sound → Sound
      { (b.insert (Name.html tag.name) tag.attributes).1 with
        stack := (b.insert (Name.html tag.name) tag.attributes).2 ::
          (b.insert (Name.html tag.name) tag.attributes).1.stack
        formatting := .element (b.insert (Name.html tag.name) tag.attributes).2 tag ::
          (b.insert (Name.html tag.name) tag.attributes).1.formatting } := fun h =>
    have hopen := h.startElement hv tag.attributes
    hopen.of_formatting (List.forall_mem_cons.mpr ⟨hv, hopen.formatting⟩)
  simp only [Builder.startFormatting]
  split
  · exact hstart (ite (h.forget _) h)
  · exact hstart h

theorem tagOf? (h : b.Sound) (ht : b.tagOf? id = some tag) :
    (Name.html tag.name).isVoid = false := by
  obtain ⟨f, hf, hsome⟩ := List.exists_of_findSome?_eq_some ht
  have hholds := h.formatting f hf
  cases f with
  | mark => cases hsome
  | element other _ =>
    dsimp only at hsome
    split at hsome
    · exact Option.some.inj hsome ▸ hholds
    · cases hsome

theorem formattingNamed? (h : b.Sound) (ht : b.formattingNamed? name = some (id, tag)) :
    (Name.html tag.name).isVoid = false := by
  obtain ⟨f, hf, hsome⟩ := List.exists_of_findSome?_eq_some ht
  have hholds := h.formatting f (List.takeWhile_subset _ hf)
  cases f with
  | mark => cases hsome
  | element other _ =>
    dsimp only at hsome
    split at hsome
    · obtain ⟨-, rfl⟩ := Prod.mk.inj (Option.some.inj hsome)
      exact hholds
    · cases hsome

/-! ## Misnested formatting -/

theorem endOther (h : b.Sound) (name : String) : (b.endOther name).Sound := by
  simp only [Builder.endOther]
  split
  · exact h
  · split
    · exact h
    · next id outer hdrop =>
      refine h.of_subset fun x hx => ?_
      have hmem := List.mem_cons_of_mem id hx
      rw [← hdrop] at hmem
      exact List.mem_of_mem_drop hmem

end Sound

/-- A division of a draft on its way: the draft has only grown, and what is kept open can have
children. -/
structure Division.Sound (d : Draft) (s : Division) : Prop where
  builder : s.builder.Sound
  kept : ∀ id ∈ s.kept, s.builder.draft.CanHold id
  canHold : ∀ id, d.CanHold id → s.builder.draft.CanHold id

namespace Sound

theorem divide {d : Draft} (block : PartId) : ∀ (between : List PartId) (count : Nat)
    {s : Division}, s.Sound d → (Builder.divide block count s between).Sound d
  | [], _, _, h => h
  | id :: rest, count, s, h => by
    simp only [Builder.divide]
    split
    · exact divide block rest _ h
    · next tag ht =>
      split
      · exact divide block rest _ ⟨h.builder.forget id, h.kept, h.canHold⟩
      · have hv := h.builder.tagOf? ht
        obtain ⟨hnew, hheld⟩ :=
          h.builder.draft.createElement (Name.html tag.name) tag.attributes
        have hout := hnew.trans (hnew.sound.detach s.moved)
        have hcopy := (hnew.sound.detach s.moved).canHold _ (hheld hv)
        have hin := hout.sound.append hcopy s.moved
        have hgrows := hout.trans hin
        have hformatting := forall_canHold_map h.builder.formatting hv id
          (s.builder.draft.createElement (Name.html tag.name) tag.attributes).2
        refine divide block rest _ ⟨(h.builder.of_formatting hformatting).grow hgrows,
          List.forall_mem_cons.mpr ⟨hin.canHold _ hcopy, fun x hx => ?_⟩, fun x hx => ?_⟩
        · exact hgrows.canHold x (h.kept x hx)
        · exact hgrows.canHold x (h.canHold x hx)

theorem rebookmark (h : b.Sound) (hv : (Name.html tag.name).isVoid = false) (id copy : PartId) :
    ∀ bookmark, (b.rebookmark id copy tag bookmark).Sound
  | .inPlace => h.of_formatting (forall_canHold_map h.formatting hv id copy)
  | .after other => by
    refine Sound.forget (h.of_formatting fun f hf => ?_) id
    rcases List.mem_append.mp hf with hf | hf
    · exact h.formatting f (List.takeWhile_subset _ hf)
    · rcases List.mem_cons.mp hf with rfl | hf
      · exact hv
      · exact h.formatting f (List.mem_of_mem_drop hf)

theorem draft_rebookmark (b : Builder) (id copy : PartId) (tag : StartTag) :
    ∀ bookmark, (b.rebookmark id copy tag bookmark).draft = b.draft
  | .inPlace => rfl
  | .after _ => rfl

/-- A part is taken out of its place and put where parts go that are added to another. -/
theorem moveInto (h : b.Sound) {target : PartId} (ht : b.draft.CanHold target) (moved : PartId)
    {b' : Builder} (hb' : b' = { b with draft := b.draft.detach moved }) :
    (b'.put (b'.placeIn target) moved).Sound ∧
      b.draft.Grows (b'.put (b'.placeIn target) moved).draft := by
  subst hb'
  have hdetached := h.draft.detach moved
  have hout := h.grow hdetached
  have hplace := hout.placeIn (hdetached.canHold target ht)
  exact ⟨hout.put hplace moved, hdetached.trans (hout.grows_put hplace moved)⟩

theorem divideAround (h : b.Sound) (hv : (Name.html tag.name).isVoid = false)
    {inner between outer : List PartId} {block : PartId} (hid : b.draft.CanHold id)
    (hinner : ∀ x ∈ inner, b.draft.CanHold x) (hblock : b.draft.CanHold block)
    (houter : ∀ x ∈ outer, b.draft.CanHold x) :
    (b.divideAround id tag inner block between outer).Sound := by
  have hs := divide block between 1 (s := { builder := b, moved := block }) (d := b.draft)
    ⟨h, fun _ hx => absurd hx List.not_mem_nil, fun _ hx => hx⟩
  simp only [Builder.divideAround]
  generalize Builder.divide block 1 { builder := b, moved := block } between = s at hs
  have hopen : Sound { s.builder with
      stack := inner ++ block :: (s.kept.reverse ++ id :: outer) } := by
    refine ⟨hs.builder.draft, ?_, hs.builder.formatting, hs.builder.head⟩
    simp only [List.forall_mem_append, List.forall_mem_cons, List.mem_reverse]
    exact ⟨fun x hx => hs.canHold x (hinner x hx), hs.canHold _ hblock, hs.kept, hs.canHold _ hid,
      fun x hx => hs.canHold x (houter x hx)⟩
  obtain ⟨hput, hmoved⟩ := hopen.moveInto
    (hs.builder.headD fun x hx => hs.canHold x (houter x hx)) s.moved rfl
  generalize Builder.put _ _ s.moved = moved at hput hmoved ⊢
  generalize hnew : moved.draft.createElement (Name.html tag.name) tag.attributes = new
  obtain ⟨hgrows, hcopy⟩ := hput.draft.wrapChildren hv
    (hmoved.canHold _ (hs.canHold _ hblock)) tag.attributes hnew
  have hkept := fun x hx => hgrows.canHold x (hmoved.canHold x hx)
  have hlast := (hput.grow hgrows).rebookmark hv id new.2 s.bookmark
  refine ⟨hlast.draft, ?_, hlast.formatting, hlast.head⟩
  simp only [List.forall_mem_append, List.forall_mem_cons, List.mem_reverse, draft_rebookmark]
  exact ⟨fun x hx => hkept x (hs.canHold x (hinner x hx)), hcopy,
    hkept block (hs.canHold _ hblock), fun x hx => hkept x (hs.kept x hx),
    fun x hx => hkept x (hs.canHold x (houter x hx))⟩

theorem endFormattingOnce (h : b.Sound) (name : String) : (b.endFormattingOnce name).1.Sound := by
  simp only [Builder.endFormattingOnce]
  split
  · exact h.endOther name
  · next id tag htag =>
    have hdrop : ∀ n, ∀ x ∈ b.stack.drop n, x ∈ b.stack := fun n x => List.mem_of_mem_drop
    split
    · exact h.forget id
    · next hopen =>
      split
      · exact h
      · split
        · exact (h.of_subset (hdrop _)).forget id
        · next block inner hinside =>
          have hid : id ∈ b.stack := by simpa using hopen
          have hin : ∀ x ∈ block :: inner, x ∈ b.stack := fun x hx => by
            rw [← hinside] at hx
            exact List.takeWhile_subset _ (List.mem_reverse.mp (List.dropWhile_subset _ hx))
          obtain ⟨hblock, hinner⟩ := List.forall_mem_cons.mp hin
          exact h.divideAround (h.formattingNamed? htag) (h.stack id hid)
            (fun x hx => h.stack x (hinner x (List.mem_reverse.mp hx))) (h.stack block hblock)
            fun x hx => h.stack x (hdrop _ x hx)

theorem endFormattingTimes (name : String) : ∀ (n : Nat) {b : Builder}, b.Sound →
    (Builder.endFormattingTimes name n b).Sound
  | 0, _, h => h
  | n + 1, b, h => by
    have honce := h.endFormattingOnce name
    rw [Builder.endFormattingTimes]
    split
    · next hb =>
      rw [hb] at honce
      exact endFormattingTimes name n honce
    · next hb =>
      rw [hb] at honce
      exact honce

theorem endFormatting (h : b.Sound) (name : String) : (b.endFormatting name).Sound :=
  h.pop.ite (endFormattingTimes name 8 h)

/-- The link that is open is ended before the next. -/
theorem endOpenLink (h : b.Sound) : b.endOpenLink.Sound := by
  rw [Builder.endOpenLink]
  split
  · exact h
  · exact ((h.endFormatting "a").forget _).removeOpen _

end Sound

end Builder

end Hypertext.Document
