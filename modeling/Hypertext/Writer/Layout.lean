import Hypertext.Writer.Markup

/-!
# Layout

A tree written as markup with its nesting shown by indentation. Block elements have their tags
on lines of their own and their content one level deeper; all else stays in the flow of text.
The content of an element with literal content is written as markup, without indentation.

A page is what has been written so far, together with the one thing that later writes depend
on: whether it stands at the beginning of a line. It does so at the start and after every
newline, and only there is an indentation written.

Levels and widths are words of the machine, and so are the numbers of spaces made of them. Sums and
products that do not fit into a word wrap around, and memory is taken to be large enough.
-/

namespace Hypertext

/-- How a tree is laid out. -/
structure LayoutOptions where
  /-- The nesting level of the top node. -/
  level : UInt64 := 0
  /-- The number of spaces for each level. -/
  width : UInt64 := 2
  /-- Whether the output has to end with a newline. -/
  trailingNewline : Bool := false
  deriving DecidableEq, Repr

/-- The indentation of a level. -/
def LayoutOptions.indentation (o : LayoutOptions) (level : UInt64) : String :=
  String.ofList (List.replicate (level * o.width).toNat ' ')

/-- What has been written, and whether it ends a line. -/
structure Page where
  writes : Array String := #[]
  atLineStart : Bool := true
  deriving DecidableEq, Repr

namespace Page

/-- Writes a text. -/
def write (p : Page) (text : String) : Page :=
  ⟨p.writes.push text,
    match text.toList.getLast? with
    | none => p.atLineStart
    | some c => c == '\n'⟩

/-- Writes texts in order. -/
def writeAll (p : Page) (texts : List String) : Page :=
  texts.foldl write p

/-- Ends the line, unless it has just begun. -/
def endLine (p : Page) : Page :=
  if p.atLineStart then p else p.write "\n"

/-- Writes the indentation of a level. -/
def indent (o : LayoutOptions) (level : UInt64) (p : Page) : Page :=
  p.write (o.indentation level)

/-- Writes the indentation of a level at the beginning of a line. -/
def indentAtLineStart (o : LayoutOptions) (level : UInt64) (p : Page) : Page :=
  if p.atLineStart then p.indent o level else p

/-- The writes so far, cut short by a fault or not. -/
def output (p : Page) (fault : Option Fault) : Output :=
  { writes := p.writes, fault }

end Page

/-- The writes of an attribute without an empty value. -/
def Attribute.bareWrites (a : Attribute) : List String :=
  [" ", a.key] ++ (if a.value = "" then [] else ["=\"", Reference.escape a.value, "\""])

namespace Layout

/-- Something still to be laid out: a node at a level, or the end tag of an element. -/
inductive Task where
  | node (id : NodeId) (level : UInt64)
  | close (name : String) (level : UInt64) (block : Bool)
  deriving DecidableEq, Repr

/-- The children of a node, as tasks at one level. -/
def tasksBelow (t : Tree) (id : NodeId) (level : UInt64) : List Task :=
  (t.childrenOnto (fun _ => true) id []).map (Task.node · level)

/-- The start tag of an element, on a line of its own for a block element. -/
def openTag (o : LayoutOptions) (e : Element) (level : UInt64) (p : Page) : Page :=
  let block := Tag.isBlock e.tag
  let p := if block then p.endLine else p
  let p := p.indentAtLineStart o level
  let p := p.writeAll (["<", e.name] ++ e.attributes.flatMap Attribute.bareWrites ++ [">"])
  if block then p.write "\n" else p

/-- The end tag of an element. A block element has it on a line of its own, and any other has
it indented if it comes first on its line. -/
def closeTag (o : LayoutOptions) (name : String) (level : UInt64) (block : Bool)
    (p : Page) : Page :=
  let p := if block then p.endLine.indent o level else p
  (p.indentAtLineStart o level).writeAll (endTagWrites name)

/-- A node as markup, at the present place of the page. -/
def embed (t : Tree) (id : NodeId) (p : Page) : Page × Option Fault :=
  let o := t.markup id
  (p.writeAll o.writes.toList, o.fault)

/-- The children of an element with literal content: their text as it stands, and all else as
markup, up to the first fault. -/
def literalChildren (t : Tree) : List NodeId → Page → Page × Option Fault
  | [], p => (p, none)
  | id :: rest, p =>
    match t.content? id with
    | some (.text data) => literalChildren t rest (p.write data)
    | _ =>
      match embed t id p with
      | (p, none) => literalChildren t rest p
      | (p, some f) => (p, some f)

/-- Carries out the pending tasks; at most `fuel` of them. -/
def run (t : Tree) (o : LayoutOptions) : Nat → List Task → Page → Page × Option Fault
  | 0, _, p => (p, none)
  | _, [], p => (p, none)
  | fuel + 1, .close name level block :: rest, p =>
    run t o fuel rest (closeTag o name level block p)
  | fuel + 1, .node id level :: rest, p =>
    match t.content? id with
    | none => run t o fuel rest p
    | some .error => (p, some .errorNode)
    | some .document => run t o fuel (tasksBelow t id level ++ rest) p
    | some (.text data) =>
      run t o fuel rest ((p.indentAtLineStart o level).write (Reference.escape data))
    | some (.comment data) =>
      run t o fuel rest ((p.indentAtLineStart o level).writeAll (commentWrites data))
    | some (.doctype d) => run t o fuel rest (p.writeAll d.writes).endLine
    | some (.raw data) => run t o fuel rest (p.write data)
    | some (.element e) =>
      let block := Tag.isBlock e.tag
      let p := openTag o e level p
      if Tag.isVoid e.tag then run t o fuel rest p
      else if Tag.isLiteral e.tag then
        match literalChildren t (t.children id) p with
        | (p, some f) => (p, some f)
        | (p, none) => run t o fuel rest (closeTag o e.name level block p)
      else
        run t o fuel (tasksBelow t id (level + 1) ++ .close e.name level block :: rest) p

end Layout

/-- The nodes at and below `id`, laid out. Each node is visited once and each element is closed
once, so twice the size of the tree is fuel enough. -/
def Tree.layout (t : Tree) (o : LayoutOptions) (id : NodeId) : Output :=
  match Layout.run t o (2 * t.size) [.node id o.level] {} with
  | (p, none) => (if o.trailingNewline then p.endLine else p).output none
  | (p, some f) => p.output (some f)

end Hypertext
