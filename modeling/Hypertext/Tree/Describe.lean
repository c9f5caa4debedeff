import Hypertext.Text.Shape
import Hypertext.Tree

/-!
# Descriptions of nodes

A node as shown in diagnostics: its place, its kind, and the name of an element between double
quotes. In such a quoted text quotes, backslashes and the common controls are escaped by a
backslash, and characters without a shape of their own are given by their number in hexadecimal.
-/

namespace Hypertext

namespace Quoted

/-- The digits of a number in base sixteen. -/
def hex (n : Nat) : List Char :=
  Nat.toDigits 16 n

/-- A character in quoted form. -/
def char (c : Char) : List Char :=
  if c = '\x00' then ['\\', '0']
  else if c = '\t' then ['\\', 't']
  else if c = '\r' then ['\\', 'r']
  else if c = '\n' then ['\\', 'n']
  else if c = '\\' then ['\\', '\\']
  else if c = '"' then ['\\', '"']
  else if Shape.isShapeless c then ['\\', 'u', '\x7b'] ++ hex c.toNat ++ ['\x7d']
  else [c]

/-- A text in quoted form. -/
def text (s : String) : String :=
  String.ofList ('"' :: (s.toList.flatMap char ++ ['"']))

end Quoted

/-- What is shown of a node with this content at this place. -/
def describe (id : NodeId) (c : Content) : String :=
  let name := match c with
    | .element e => ", name: " ++ Quoted.text e.name
    | _ => ""
  "NodeRef \x7b id: " ++ toString id ++ ", kind: " ++ c.kind.capitalName ++ name ++ " \x7d"

end Hypertext
