import Hypertext.Output.Basic
import Hypertext.Reference.Text
import Hypertext.Tree

/-!
# Markup

A tree written as markup, without any whitespace of its own. Text is escaped, except directly
in an element with literal content. A void element is closed in its start tag; one that has
children cannot be written, and neither can an error node.

Nodes and end tags that are still to be written wait in one list, the next one in front.
-/

namespace Hypertext

/-- Whether a newline at the beginning of this element's content would be lost, because readers
drop the first newline after its start tag. -/
def dropsFirstNewline (tag : Option Tag) : Bool :=
  tag == some .pre || tag == some .listing || tag == some .textarea

/-- An identifier of a document type in quotes: double quotes, unless it holds one. -/
def quotedId (id : String) : String :=
  if id.toList.contains '"' then "'" ++ id ++ "'" else "\"" ++ id ++ "\""

/-- The writes of a document type declaration. -/
def Doctype.writes (d : Doctype) : List String :=
  ["<!DOCTYPE ", d.name]
    ++ (if d.publicId ≠ "" then
          [" PUBLIC ", quotedId d.publicId]
            ++ (if d.systemId ≠ "" then [" ", quotedId d.systemId] else [])
        else if d.systemId ≠ "" then [" SYSTEM ", quotedId d.systemId]
        else [])
    ++ [">"]

/-- The writes of an attribute with its value. -/
def Attribute.writes (a : Attribute) : List String :=
  [" ", a.key, "=\"", Reference.escape a.value, "\""]

/-- The writes of a start tag up to its end. -/
def Element.openWrites (e : Element) : List String :=
  ["<", e.name] ++ e.attributes.flatMap Attribute.writes

/-- The writes of an end tag. -/
def endTagWrites (name : String) : List String :=
  ["</", name, ">"]

/-- The writes of a comment. -/
def commentWrites (data : String) : List String :=
  ["<!--", data, "-->"]

namespace Markup

/-- Something still to be written: a node, with the information whether its text is literal, or
the end tag of an element of this name. -/
inductive Task where
  | node (id : NodeId) (literal : Bool)
  | close (name : String)
  deriving DecidableEq, Repr

/-- The children of a node, as tasks. -/
def tasksBelow (t : Tree) (id : NodeId) (literal : Bool) : List Task :=
  (t.childrenOnto (fun _ => true) id []).map (Task.node · literal)

/-- Whether the first child of a node is a text that begins with a newline. -/
def startsWithNewline (t : Tree) (id : NodeId) : Bool :=
  match (t.first? id).bind t.content? with
  | some (.text data) => data.toList.head? == some '\n'
  | _ => false

/-- Carries out the pending tasks; at most `fuel` of them. -/
def run (t : Tree) : Nat → List Task → Array String → Output
  | 0, _, writes => { writes }
  | _, [], writes => { writes }
  | fuel + 1, .close name :: rest, writes => run t fuel rest (writes ++ endTagWrites name)
  | fuel + 1, .node id literal :: rest, writes =>
    match t.content? id with
    | none => run t fuel rest writes
    | some .error => { writes, fault := some .errorNode }
    | some .document => run t fuel (tasksBelow t id false ++ rest) writes
    | some (.text data) =>
      run t fuel rest (writes.push (if literal then data else Reference.escape data))
    | some (.comment data) => run t fuel rest (writes ++ commentWrites data)
    | some (.doctype d) => run t fuel rest (writes ++ d.writes)
    | some (.raw data) => run t fuel rest (writes.push data)
    | some (.element e) =>
      let writes := writes ++ e.openWrites
      if Tag.isVoid e.tag then
        if (t.first? id).isSome then { writes, fault := some (.voidElementChildren e.name) }
        else run t fuel rest (writes.push "/>")
      else
        let writes := writes.push ">"
        let writes :=
          if dropsFirstNewline e.tag && startsWithNewline t id then writes.push "\n" else writes
        let close := if e.tag = some .plaintext then [] else [.close e.name]
        run t fuel (tasksBelow t id (Tag.isLiteral e.tag) ++ close ++ rest) writes

end Markup

/-- The markup of the nodes at and below `id`. Each node is written once and each element is
closed once, so twice the size of the tree is fuel enough. -/
def Tree.markup (t : Tree) (id : NodeId) : Output :=
  Markup.run t (2 * t.size) [.node id false] #[]

end Hypertext
