import Hypertext.Document.Draft
import Hypertext.Document.Token

/-!
# Building documents

The state in which a document is read, and the operations that the rules of reading consist of.
Elements that have been started and not ended are kept on a stack, the innermost first.
Formatting elements are remembered beyond their ends, so that they can be started again; what
is remembered is a list, the latest first, in which marks divide what must not be mixed.
-/

namespace Hypertext.Document

/-- What a reader of documents is in the middle of. -/
inductive Mode where
  | initial | beforeHtml | beforeHead | inHead | inHeadNoscript | afterHead | inBody | text
  | inTable | inTableText | inCaption | inColumnGroup | inTableBody | inRow | inCell
  | inSelect | inSelectInTable | inTemplate | afterBody | inFrameset | afterFrameset
  | afterAfterBody | afterAfterFrameset
  deriving DecidableEq, Repr

/-- A remembered formatting element with the tag that started it, or a mark. -/
inductive Formatting where
  | mark
  | element (id : PartId) (tag : StartTag)
  deriving DecidableEq, Repr

/-- Whether this is the given element. -/
def Formatting.isElement (id : PartId) : Formatting → Bool
  | .mark => false
  | .element other _ => other == id

/-- The state in which a document is read. -/
structure Builder where
  draft : Draft := .empty
  mode : Mode := .initial
  /-- The mode to go back to after text. -/
  returnMode : Mode := .initial
  /-- The modes of the open templates, the innermost first. -/
  templateModes : List Mode := []
  /-- Text that was read in a table and has no place yet, the latest first. -/
  tableText : List (TextKind × List Char) := []
  /-- Whether the document follows the rules of old browsers. -/
  oldRules : Bool := false
  /-- The open elements, the innermost first. -/
  stack : List PartId := []
  /-- The remembered formatting elements, the latest first. -/
  formatting : List Formatting := []
  head : Option PartId := none
  form : Option PartId := none
  /-- Whether the body may still turn out to be a set of frames. -/
  framesetOk : Bool := true
  /-- Whether a newline that comes next is dropped. -/
  dropNewline : Bool := false
  /-- Whether what is added to a table goes before the table. -/
  fostering : Bool := false

namespace Builder

instance : Inhabited Builder := ⟨{}⟩

/-! ## The open elements -/

/-- The name of an element; parts of other kinds have none, and are never asked for it. -/
def name (b : Builder) (id : PartId) : Name :=
  (b.draft.name? id).getD (Name.html "")

/-- Whether an element has this name in HTML. -/
def isNamed (b : Builder) (name : String) (id : PartId) : Bool :=
  b.name id == Name.html name

/-- The innermost open element. -/
def current? (b : Builder) : Option PartId :=
  b.stack.head?

/-- Whether the innermost open element is in a set. -/
def currentIn (b : Builder) (set : Name → Bool) : Bool :=
  b.current?.any fun id => set (b.name id)

/-- Whether the innermost open element has this name in HTML. -/
def currentIs (b : Builder) (name : String) : Bool :=
  b.current?.any (b.isNamed name)

/-- Whether an element with this name in HTML is open. -/
def hasOpen (b : Builder) (name : String) : Bool :=
  b.stack.any (b.isNamed name)

/-- Whether an open element is met, from the innermost out, before one that bounds the
search. -/
def findsOpen (b : Builder) (bounds : Name → Bool) (p : PartId → Bool) : List PartId → Bool
  | [] => false
  | id :: rest => p id || (!bounds (b.name id) && b.findsOpen bounds p rest)

/-- Whether an element with this name in HTML is open within the bounds. -/
def inScope (b : Builder) (bounds : Name → Bool) (name : String) : Bool :=
  b.findsOpen bounds (b.isNamed name) b.stack

/-- Ends the innermost open element. -/
def pop (b : Builder) : Builder :=
  { b with stack := b.stack.drop 1 }

/-- Ends open elements up to one with this name in HTML, which is ended too. -/
def popThrough (b : Builder) (name : String) : Builder :=
  { b with stack := (b.stack.dropWhile (!b.isNamed name ·)).drop 1 }

/-- Ends open elements up to one of a set, which is ended too. -/
def popThroughAny (b : Builder) (set : Name → Bool) : Builder :=
  { b with stack := (b.stack.dropWhile fun id => !set (b.name id)).drop 1 }

/-- Ends open elements up to one of a set, which stays open. -/
def popTo (b : Builder) (set : Name → Bool) : Builder :=
  { b with stack := b.stack.dropWhile fun id => !set (b.name id) }

/-- Ends the innermost open elements that are in a set. -/
def popWhile (b : Builder) (set : Name → Bool) : Builder :=
  { b with stack := b.stack.dropWhile fun id => set (b.name id) }

/-- Ends the elements whose end tags may be missing. -/
def endImplied (b : Builder) : Builder :=
  b.popWhile Name.endsImplicitly

/-- Ends the elements whose end tags may be missing, but none with this name. -/
def endImpliedExcept (b : Builder) (name : String) : Builder :=
  b.popWhile fun q => q.endsImplicitly && q != Name.html name

/-- Ends an element with this name, after the elements in it whose end tags are missing. -/
def close (b : Builder) (name : String) : Builder :=
  (b.endImpliedExcept name).popThrough name

/-- Ends the open paragraph, if there is one here. -/
def closeParagraph (b : Builder) : Builder :=
  if b.inScope Name.boundsButtonScope "p" then b.close "p" else b

/-- Takes an element off the stack, wherever it is. -/
def removeOpen (b : Builder) (id : PartId) : Builder :=
  { b with stack := b.stack.erase id }

/-- The outermost open element, which is `html`. -/
def root? (b : Builder) : Option PartId :=
  b.stack.getLast?

/-- The open `body`, which is next to the outermost element. -/
def body? (b : Builder) : Option PartId :=
  (b.stack.dropLast.getLast?).filter (b.isNamed "body")

/-! ## Adding parts -/

/-- A place for a new part. -/
inductive Place where
  | lastIn (parent : PartId)
  /-- Before a table, or in the element around it if the table has no place. -/
  | besideTable (table around : PartId)

/-- Where a part goes that does not belong in a table: before the innermost table, unless a
template is nearer. -/
def fosterPlace (b : Builder) : List PartId → Place
  | [] => .lastIn (b.root?.getD Draft.document)
  | id :: rest =>
    if b.isNamed "template" id then .lastIn (((b.draft.entry? id).bind (·.contents)).getD id)
    else if b.isNamed "table" id then .besideTable id (rest.headD Draft.document)
    else b.fosterPlace rest

/-- Where a part goes that is added to `target`. -/
def placeIn (b : Builder) (target : PartId) : Place :=
  if b.fostering && (b.name target).isTablePart then b.fosterPlace b.stack
  else if b.isNamed "template" target then
    .lastIn (((b.draft.entry? target).bind (·.contents)).getD target)
  else .lastIn target

/-- Where a part goes that is added to the innermost open element. -/
def place (b : Builder) : Place :=
  b.placeIn (b.current?.getD Draft.document)

/-- Puts a part that has no place into one. -/
def put (b : Builder) (p : Place) (id : PartId) : Builder :=
  let d := match p with
    | .lastIn parent => b.draft.append parent id
    | .besideTable table around =>
      if (b.draft.parent? table).isSome then b.draft.insertBefore table id
      else b.draft.append around id
  { b with draft := d }

/-- Makes an element and puts it into its place. -/
def insert (b : Builder) (name : Name) (attributes : List Attribute) : Builder × PartId :=
  let (d, id) := b.draft.createElement name attributes
  let b := { b with draft := d }
  (b.put b.place id, id)

/-- Starts an element. -/
def start (b : Builder) (name : Name) (attributes : List Attribute) : Builder :=
  let (b, id) := b.insert name attributes
  { b with stack := id :: b.stack }

/-- Starts the element of a tag. -/
def startTag (b : Builder) (tag : StartTag) : Builder :=
  b.start (Name.html tag.name) tag.attributes

/-- Starts an element that has no tag in the document. -/
def startImplied (b : Builder) (name : String) : Builder :=
  b.start (Name.html name) []

/-- Adds the element of a tag, which has no content. -/
def addVoid (b : Builder) (tag : StartTag) : Builder :=
  (b.insert (Name.html tag.name) tag.attributes).1

/-- Starts the outermost element. -/
def startRoot (b : Builder) (attributes : List Attribute) : Builder :=
  let (d, id) := b.draft.createElement (Name.html "html") attributes
  { b with draft := d.append Draft.document id, stack := id :: b.stack }

/-- Adds text. -/
def addText (b : Builder) (data : List Char) : Builder :=
  let s := String.ofList data
  let d := match b.place with
    | .lastIn parent => b.draft.appendText parent s
    | .besideTable table around =>
      if (b.draft.parent? table).isSome then b.draft.insertTextBefore table s
      else b.draft.appendText around s
  { b with draft := d }

/-- Adds a comment. -/
def addComment (b : Builder) (data : String) : Builder :=
  let (d, id) := b.draft.create (.comment data)
  let b := { b with draft := d }
  b.put b.place id

/-- Adds a comment at the end of a given part. -/
def addCommentTo (b : Builder) (parent : PartId) (data : String) : Builder :=
  let (d, id) := b.draft.create (.comment data)
  { b with draft := d.append parent id }

/-! ## Formatting elements -/

/-- Whether an entry needs no new start: it is a mark, or its element is open. -/
def isSettled (b : Builder) : Formatting → Bool
  | .mark => true
  | .element id _ => b.stack.contains id

/-- Starts remembered elements again, the earliest first; the entries that need none are in
`settled`, the latest first. -/
def restart (b : Builder) (settled : List Formatting) : List Formatting → Builder
  | [] => { b with formatting := settled }
  | .mark :: rest => b.restart (.mark :: settled) rest
  | .element _ tag :: rest =>
    let (b, id) := b.insert (Name.html tag.name) tag.attributes
    { b with stack := id :: b.stack }.restart (.element id tag :: settled) rest

/-- Starts the remembered formatting elements that have been ended, back to the last mark or
open one. -/
def restartFormatting (b : Builder) : Builder :=
  let unsettled := b.formatting.takeWhile (!b.isSettled ·)
  b.restart (b.formatting.drop unsettled.length) unsettled.reverse

/-- The entries since the last mark, the latest first. -/
def sinceMark (b : Builder) : List Formatting :=
  b.formatting.takeWhile (· ≠ .mark)

/-- Forgets the entries since the last mark, and the mark. -/
def forgetToMark (b : Builder) : Builder :=
  { b with formatting := (b.formatting.dropWhile (· ≠ .mark)).drop 1 }

/-- Remembers a mark. -/
def mark (b : Builder) : Builder :=
  { b with formatting := .mark :: b.formatting }

/-- Forgets a formatting element. -/
def forget (b : Builder) (id : PartId) : Builder :=
  { b with formatting := b.formatting.filter (!·.isElement id) }

/-- Whether a formatting element is remembered. -/
def remembers (b : Builder) (id : PartId) : Bool :=
  b.formatting.any (·.isElement id)

/-- The tag of a remembered formatting element. -/
def tagOf? (b : Builder) (id : PartId) : Option StartTag :=
  b.formatting.findSome? fun f =>
    match f with
    | .element other tag => if other = id then some tag else none
    | .mark => none

/-- The latest remembered element since the last mark whose tag has this name. -/
def formattingNamed? (b : Builder) (name : String) : Option (PartId × StartTag) :=
  b.sinceMark.findSome? fun f =>
    match f with
    | .element id tag => if tag.name = name then some (id, tag) else none
    | .mark => none

/-- The remembered elements since the last mark with a tag like this one, the latest first. -/
def formattingLike (b : Builder) (tag : StartTag) : List PartId :=
  b.sinceMark.filterMap fun f =>
    match f with
    | .element id other => if tag.sameAs other then some id else none
    | .mark => none

/-- Starts a formatting element and remembers it. Of elements that are alike only three are
remembered; the earliest is forgotten for the new one. -/
def startFormatting (b : Builder) (tag : StartTag) : Builder :=
  let alike := b.formattingLike tag
  let b := match alike.getLast? with
    | some earliest => if 3 ≤ alike.length then b.forget earliest else b
    | none => b
  let (b, id) := b.insert (Name.html tag.name) tag.attributes
  { b with stack := id :: b.stack, formatting := .element id tag :: b.formatting }

/-! ## Modes -/

/-- The mode that the open elements from the innermost out call for. -/
def modeFor (b : Builder) : List PartId → Mode
  | [] => .inBody
  | id :: rest =>
    let last := rest.isEmpty
    let q := b.name id
    if q.vocabulary ≠ .html then b.modeFor rest
    else
      match q.name with
      | "select" =>
        match rest.find? fun other => b.isNamed "template" other || b.isNamed "table" other with
        | some other => if b.isNamed "table" other then .inSelectInTable else .inSelect
        | none => .inSelect
      | "td" | "th" => if last then b.modeFor rest else .inCell
      | "tr" => .inRow
      | "tbody" | "thead" | "tfoot" => .inTableBody
      | "caption" => .inCaption
      | "colgroup" => .inColumnGroup
      | "table" => .inTable
      | "template" => b.templateModes.headD .inBody
      | "head" => if last then b.modeFor rest else .inHead
      | "body" => .inBody
      | "frameset" => .inFrameset
      | "html" => if b.head.isSome then .afterHead else .beforeHead
      | _ => b.modeFor rest

/-- Returns to the mode that the open elements call for. -/
def resetMode (b : Builder) : Builder :=
  { b with mode := b.modeFor b.stack }

/-- The body is not a set of frames. -/
def noFrameset (b : Builder) : Builder :=
  { b with framesetOk := false }

/-- Changes the mode. -/
def enter (b : Builder) (mode : Mode) : Builder :=
  { b with mode }

/-- Starts the element of a tag whose content is text. -/
def startText (b : Builder) (tag : StartTag) : Builder :=
  { b.startTag tag with returnMode := b.mode, mode := .text }

end Builder

end Hypertext.Document
