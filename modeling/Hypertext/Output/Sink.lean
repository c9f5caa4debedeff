import Hypertext.Output.Basic
import Hypertext.Text.Basic

/-!
# Sinks

Where written bytes end up. A sink takes everything, or only so many bytes; a limited sink cuts
the write that crosses its limit, or refuses it whole. A sink that is full refuses every write
that is not empty.

`Output.into` sends the writes of an output straight to a sink. `Output.buffered` collects them
in a buffer first. Writers stop at the first refusal, and a refusal counts before the fault that
would have come later.
-/

namespace Hypertext

/-- How much a sink takes. -/
inductive Capacity where
  | unlimited
  /-- So many bytes; the write that crosses the limit is cut. -/
  | cut (limit : Nat)
  /-- So many bytes; the write that crosses the limit is refused. -/
  | whole (limit : Nat)
  deriving DecidableEq, Repr

/-- What a sink holds, and how much it takes. -/
structure Sink where
  capacity : Capacity
  held : Array UInt8 := #[]
  deriving DecidableEq, Repr

/-- Why a writer stopped: for its own reason, or because its sink refused. -/
inductive WriteError where
  | fault (f : Fault)
  | sinkFull
  deriving DecidableEq, Repr

/-- What is reported when writing fails. -/
def WriteError.message : WriteError → String
  | .fault f => f.message
  | .sinkFull => "write failed: sink full"

namespace Sink

/-- How many of `n` bytes a sink takes now; nothing if it refuses. -/
def accepts (s : Sink) (n : Nat) : Option Nat :=
  match s.capacity with
  | .unlimited => some n
  | .cut limit =>
    if n = 0 then some 0
    else if limit ≤ s.held.size then none
    else some (min n (limit - s.held.size))
  | .whole limit => if s.held.size + n ≤ limit then some n else none

/-- One write: the bytes that were not taken, unless the sink refuses. -/
def write? (s : Sink) (bytes : Bytes) : Sink × Option Bytes :=
  match s.accepts bytes.length with
  | none => (s, none)
  | some n => (⟨s.capacity, s.held ++ bytes.take n⟩, some (bytes.drop n))

/-- Writes until nothing is left or the sink refuses; each round takes at least one byte. -/
def writeAllWithin : Nat → Sink → Bytes → Sink × Bool
  | 0, s, bytes => (s, bytes.isEmpty)
  | fuel + 1, s, bytes =>
    if bytes.isEmpty then (s, true)
    else
      match s.write? bytes with
      | (s, none) => (s, false)
      | (s, some rest) => writeAllWithin fuel s rest

/-- Writes all bytes, in several rounds if need be, and tells whether that succeeded. -/
def writeAll (s : Sink) (bytes : Bytes) : Sink × Bool :=
  writeAllWithin bytes.length s bytes

/-- Writes texts in order, up to the first refusal. -/
def writeTexts (s : Sink) : List String → Sink × Bool
  | [] => (s, true)
  | text :: texts =>
    match s.writeAll (bytesOf text) with
    | (s, true) => s.writeTexts texts
    | (s, false) => (s, false)

end Sink

/-- What a finished writer reports. -/
def Output.report (o : Output) (taken : Bool) : Except WriteError Unit :=
  match taken, o.fault with
  | false, _ => .error .sinkFull
  | true, some f => .error (.fault f)
  | true, none => .ok ()

/-- Sends the writes of an output straight to a sink. -/
def Output.into (o : Output) (s : Sink) : Sink × Except WriteError Unit :=
  let (s, taken) := s.writeTexts o.writes.toList
  (s, o.report taken)

end Hypertext
