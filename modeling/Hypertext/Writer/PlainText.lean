import Hypertext.Output.Basic
import Hypertext.Reference.Text
import Hypertext.Tree

/-!
# Plain text

The text of a tree, as a reader would take it down: the text nodes in order, with references
resolved, and a newline for each `br`. Scripts and style sheets are passed over, and so is what
stands below a `br`.
-/

namespace Hypertext

namespace Tree

/-- What a node contributes to plain text of its own, and whether its children are read. -/
def plainPart : Content → Option String × Bool
  | .text data => (some (Reference.unescape data), true)
  | .element e =>
    if e.tag = some .br then (some "\n", false)
    else if e.tag = some .script ∨ e.tag = some .style then (none, false)
    else (none, true)
  | _ => (none, true)

/-- Writes the plain text of the pending nodes, one write for each text node and each `br`; at
most `fuel` nodes are visited. -/
def plainTextOnto (t : Tree) : Nat → List NodeId → Array String → Array String
  | 0, _, writes => writes
  | _, [], writes => writes
  | fuel + 1, id :: rest, writes =>
    match t.content? id with
    | none => plainTextOnto t fuel rest writes
    | some content =>
      let (part, enter) := plainPart content
      let writes := match part with
        | some text => writes.push text
        | none => writes
      plainTextOnto t fuel (if enter then t.childrenOnto (fun _ => true) id rest else rest) writes

/-- The plain text of the nodes at and below `id`. -/
def plainText (t : Tree) (id : NodeId) : Output :=
  { writes := plainTextOnto t t.size [id] #[] }

end Tree

end Hypertext
