import Hypertext.Text.Basic

/-!
# Decoders

A decoder reads bytes from the front, a unit at a time. Reading a unit gives characters, which
are none or U+FFFD where the bytes are malformed, and the bytes that come after. A decoder may
keep a state from unit to unit.
-/

namespace Hypertext.Charset

/-- What stands in for malformed bytes. -/
def malformed : List Char := ['\ufffd']

/-- Reads one unit, given its first byte and the bytes after that: its characters and the bytes
that are left. -/
abbrev ReadUnit := UInt8 → Bytes → List Char × Bytes

/-- Reads one unit and passes a state on. -/
abbrev ReadUnitWith (σ : Type) := σ → UInt8 → Bytes → σ × List Char × Bytes

/-- Reads units until no byte is left, with the characters so far in `done`, last one first.
Every unit takes at least one byte, so the number of bytes is fuel enough. -/
def decodeOnto {σ : Type} (read : ReadUnitWith σ) : Nat → σ → Bytes → List Char → List Char
  | 0, _, _, done => done.reverse
  | _, _, [], done => done.reverse
  | fuel + 1, s, b :: rest, done =>
    let (s, chars, rest) := read s b rest
    decodeOnto read fuel s rest (chars.reverse ++ done)

/-- The text of some bytes, by a decoder that starts in state `s`. -/
def decodeFrom {σ : Type} (read : ReadUnitWith σ) (s : σ) (bytes : Bytes) : List Char :=
  decodeOnto read bytes.length s bytes []

/-- The text of some bytes, by a decoder without a state. -/
def decodeUnits (read : ReadUnit) (bytes : Bytes) : List Char :=
  decodeFrom (fun _ b rest => ((), read b rest)) () bytes

/-- What follows a first byte that cannot go on with `b`: an ASCII byte is read again on its
own, and any other byte is dropped with the first. -/
def rejectSecond (b : UInt8) (rest : Bytes) : List Char × Bytes :=
  if b < 0x80 then (malformed, b :: rest) else (malformed, rest)

end Hypertext.Charset
