import Hypertext.Output.Buffer
import Hypertext.Document.Read
import Hypertext.Writer.Layout

/-!
# The program

Reads a document and writes it laid out, with a newline at the end. A document that has no
markup is reported, and what was written before stays written.
-/

namespace Hypertext.Program

/-- What the program leaves behind. -/
structure Result where
  status : Nat
  output : Bytes
  errors : Bytes
  deriving DecidableEq, Repr

/-- The report of a failure. -/
def failure (e : WriteError) : String :=
  "Failed to render: " ++ e.message ++ "\n"

/-- The run of the program on its input. -/
def run (input : Bytes) : Result :=
  let layout := (parseBytes input).layout { trailingNewline := true } Tree.root
  match layout.buffered { capacity := .unlimited } with
  | (sink, .ok ()) => ⟨0, sink.held.toList, []⟩
  | (sink, .error e) => ⟨1, sink.held.toList, bytesOf (failure e)⟩

end Hypertext.Program
