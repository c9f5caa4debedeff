/-!
# Output

What a writer produces, apart from where it goes: a sequence of writes, and the fault that cut
it short, if there was one.
-/

namespace Hypertext

/-- Why a tree has no markup. -/
inductive Fault where
  /-- There is an error node. -/
  | errorNode
  /-- A void element of this name has children. -/
  | voidElementChildren (name : String)
  deriving DecidableEq, Repr

/-- What is reported for a tree without markup. -/
def Fault.message : Fault → String
  | .errorNode => "cannot render error node"
  | .voidElementChildren name => "void element <" ++ name ++ "> has child nodes"

/-- The writes of a writer, and why it stopped early. -/
structure Output where
  writes : Array String := #[]
  fault : Option Fault := none
  deriving DecidableEq, Repr

namespace Output

/-- Everything that was written. -/
def text (o : Output) : String :=
  o.writes.foldl (· ++ ·) ""

/-- The text of a writer that was not cut short. -/
def text? (o : Output) : Except Fault String :=
  match o.fault with
  | none => .ok o.text
  | some f => .error f

end Output

end Hypertext
