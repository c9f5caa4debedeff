import Hypertext.Output.Sink

/-!
# Buffered output

A buffer of 8192 bytes in front of a sink. A write goes into the buffer if it fits. Otherwise
the buffer is emptied first, and a write as large as the buffer goes to the sink directly.
When the writer is done the buffer is emptied, and a refusal is reported. When a fault stops
the writer the buffer is emptied as well, but the fault is what is reported.
-/

namespace Hypertext

/-- A sink behind a buffer. -/
structure Buffer where
  sink : Sink
  pending : Array UInt8 := #[]
  deriving DecidableEq, Repr

namespace Buffer

/-- The size of a buffer. -/
def size : Nat := 8192

/-- Empties the buffer; what the sink refuses stays in it. -/
def flushWithin : Nat → Buffer → Buffer × Bool
  | 0, b => (b, b.pending.isEmpty)
  | fuel + 1, b =>
    if b.pending.isEmpty then (b, true)
    else
      match b.sink.write? b.pending.toList with
      | (sink, none) => (⟨sink, b.pending⟩, false)
      | (sink, some rest) => flushWithin fuel ⟨sink, rest.toArray⟩

/-- Empties the buffer, in several writes if need be, and tells whether that succeeded. -/
def flush (b : Buffer) : Buffer × Bool :=
  flushWithin b.pending.size b

/-- One write: the bytes that were not taken, and whether it was refused. -/
def write? (b : Buffer) (bytes : Bytes) : Buffer × Option Bytes :=
  if b.pending.size + bytes.length < size then
    (⟨b.sink, b.pending ++ bytes⟩, some [])
  else
    let (b, emptied) :=
      if size < b.pending.size + bytes.length then b.flush else (b, true)
    if !emptied then (b, none)
    else if size ≤ bytes.length then
      let (sink, rest) := b.sink.write? bytes
      (⟨sink, b.pending⟩, rest)
    else (⟨b.sink, b.pending ++ bytes⟩, some [])

/-- Writes until nothing is left or a write is refused; each round takes at least one byte. -/
def writeAllWithin : Nat → Buffer → Bytes → Buffer × Bool
  | 0, b, bytes => (b, bytes.isEmpty)
  | fuel + 1, b, bytes =>
    if bytes.isEmpty then (b, true)
    else
      match b.write? bytes with
      | (b, none) => (b, false)
      | (b, some rest) => writeAllWithin fuel b rest

/-- Writes all bytes, and tells whether that succeeded. -/
def writeAll (b : Buffer) (bytes : Bytes) : Buffer × Bool :=
  writeAllWithin bytes.length b bytes

/-- Writes texts in order, up to the first refusal. -/
def writeTexts (b : Buffer) : List String → Buffer × Bool
  | [] => (b, true)
  | text :: texts =>
    match b.writeAll (bytesOf text) with
    | (b, true) => b.writeTexts texts
    | (b, false) => (b, false)

end Buffer

/-- Sends the writes of an output through a buffer to a sink. -/
def Output.buffered (o : Output) (s : Sink) : Sink × Except WriteError Unit :=
  match Buffer.writeTexts ⟨s, #[]⟩ o.writes.toList with
  | (b, false) => (b.flush.1.sink, .error .sinkFull)
  | (b, true) =>
    match o.fault with
    | some f => (b.flush.1.sink, .error (.fault f))
    | none =>
      match b.flush with
      | (b, true) => (b.sink, .ok ())
      | (b, false) => (b.flush.1.sink, .error .sinkFull)

end Hypertext
