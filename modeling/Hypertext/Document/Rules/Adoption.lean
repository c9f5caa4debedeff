import Hypertext.Document.Builder

/-!
# Misnested formatting

What happens at an end tag that closes elements out of order. A formatting element that ends
while a structural element inside it is still open is divided: what was in the structural
element goes into a copy of the formatting element inside it, and the formatting elements
between the two are copied around the structural element.
-/

namespace Hypertext.Document.Builder

/-- Ends the element that an end tag without rules of its own means: the innermost one with
this name, unless a special element is open inside it. -/
def endOther (b : Builder) (name : String) : Builder :=
  let inner := b.stack.takeWhile (!b.isNamed name ·)
  if inner.any fun id => (b.name id).isSpecial then b
  else
    match b.stack.drop inner.length with
    | [] => b
    | _ :: outer => { b with stack := outer }

/-- Where the copy of a divided formatting element is remembered. -/
inductive Bookmark where
  /-- In the place of the divided element. -/
  | inPlace
  /-- Next to a later entry. -/
  | after (id : PartId)

/-- The state of the walk from the structural element out to the formatting element. -/
structure Division where
  builder : Builder
  /-- What stays open between the two, the innermost first, in reverse. -/
  kept : List PartId := []
  /-- The topmost part of what is moved. -/
  moved : PartId
  bookmark : Bookmark := .inPlace

/-- Copies the open formatting elements between the structural and the formatting element, and
puts each around what was moved so far. Elements that are not remembered are ended, and after
three steps also those that are. -/
def divide (block : PartId) (count : Nat) (s : Division) : List PartId → Division
  | [] => s
  | id :: rest =>
    let b := s.builder
    match b.tagOf? id with
    | none => divide block (count + 1) s rest
    | some tag =>
      if 3 < count then divide block (count + 1) { s with builder := b.forget id } rest
      else
        let (d, copy) := b.draft.createElement (Name.html tag.name) tag.attributes
        let formatting := b.formatting.map fun f =>
          if f.isElement id then .element copy tag else f
        let d := (d.detach s.moved).append copy s.moved
        divide block (count + 1)
          { builder := { b with draft := d, formatting }
            kept := copy :: s.kept
            moved := copy
            bookmark := if s.moved = block then .after copy else s.bookmark }
          rest

/-- Remembers the copy of a divided element instead of the element. -/
def rebookmark (b : Builder) (id copy : PartId) (tag : StartTag) : Bookmark → Builder
  | .inPlace =>
    { b with formatting := b.formatting.map fun f =>
        if f.isElement id then .element copy tag else f }
  | .after other =>
    let later := b.formatting.takeWhile (!·.isElement other)
    let formatting := later ++ .element copy tag :: b.formatting.drop later.length
    { b with formatting }.forget id

/-- Divides a formatting element that is open around a structural element. `inner` holds the
open elements inside the structural element, `between` those between the two, and `outer` those
around the formatting element, each with the innermost first. -/
def divideAround (b : Builder) (id : PartId) (tag : StartTag) (inner : List PartId)
    (block : PartId) (between outer : List PartId) : Builder :=
  let s := divide block 1 { builder := b, moved := block } between
  let b := { s.builder with stack := inner ++ block :: (s.kept.reverse ++ id :: outer) }
  let b := { b with draft := b.draft.detach s.moved }
  let b := b.put (b.placeIn (outer.headD Draft.document)) s.moved
  let (d, copy) := b.draft.createElement (Name.html tag.name) tag.attributes
  let d := (d.moveChildren block copy).append block copy
  let b := { b with draft := d }.rebookmark id copy tag s.bookmark
  { b with stack := inner ++ copy :: block :: (s.kept.reverse ++ outer) }

/-- The end of a formatting element, once; whether the rules want to see it again. -/
def endFormattingOnce (b : Builder) (name : String) : Builder × Bool :=
  match b.formattingNamed? name with
  | none => (b.endOther name, false)
  | some (id, tag) =>
    if !b.stack.contains id then (b.forget id, false)
    else if !b.findsOpen Name.boundsScope (· == id) b.stack then (b, false)
    else
      let inside := b.stack.takeWhile (· ≠ id)
      let outer := b.stack.drop (inside.length + 1)
      match inside.reverse.dropWhile fun id => !(b.name id).isSpecial with
      | [] => ({ b with stack := outer }.forget id, false)
      | block :: inner =>
        let between := inside.drop (inner.length + 1)
        (b.divideAround id tag inner.reverse block between outer, true)

/-- The end of a formatting element, as often as the rules want to see it. -/
def endFormattingTimes (name : String) : Nat → Builder → Builder
  | 0, b => b
  | n + 1, b =>
    match b.endFormattingOnce name with
    | (b, true) => endFormattingTimes name n b
    | (b, false) => b

/-- The end tag of a formatting element. -/
def endFormatting (b : Builder) (name : String) : Builder :=
  if b.currentIs name && !b.current?.any b.remembers then b.pop
  else endFormattingTimes name 8 b

/-- Ends an open link before another one begins. -/
def endOpenLink (b : Builder) : Builder :=
  match b.formattingNamed? "a" with
  | none => b
  | some (id, _) => ((b.endFormatting "a").forget id).removeOpen id

end Hypertext.Document.Builder
