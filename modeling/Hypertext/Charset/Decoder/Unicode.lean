import Hypertext.Charset.Decoder.Basic

/-!
# Decoding UTF-8 and UTF-16

In UTF-8 a sequence that breaks off is replaced as a whole, and reading goes on at the byte
that broke it. In UTF-16 a surrogate that stands alone is replaced, and so is half a unit at
the end.
-/

namespace Hypertext.Charset

/-- What the first byte of a UTF-8 sequence says: how many bytes follow, its part of the
number, and the range of the next byte. -/
structure Utf8Lead where
  count : Nat
  bits : Nat
  low : UInt8
  high : UInt8
  deriving DecidableEq, Repr

/-- The meaning of a first byte outside ASCII. The ranges leave out overlong forms, surrogates
and numbers above U+10FFFF. -/
def utf8Lead? (b : UInt8) : Option Utf8Lead :=
  if 0xC2 ≤ b ∧ b ≤ 0xDF then some ⟨1, b.toNat - 0xC0, 0x80, 0xBF⟩
  else if b = 0xE0 then some ⟨2, b.toNat - 0xE0, 0xA0, 0xBF⟩
  else if b = 0xED then some ⟨2, b.toNat - 0xE0, 0x80, 0x9F⟩
  else if 0xE1 ≤ b ∧ b ≤ 0xEF then some ⟨2, b.toNat - 0xE0, 0x80, 0xBF⟩
  else if b = 0xF0 then some ⟨3, b.toNat - 0xF0, 0x90, 0xBF⟩
  else if b = 0xF4 then some ⟨3, b.toNat - 0xF0, 0x80, 0x8F⟩
  else if 0xF1 ≤ b ∧ b ≤ 0xF3 then some ⟨3, b.toNat - 0xF0, 0x80, 0xBF⟩
  else none

/-- Reads the remaining bytes of a sequence; the next one has to lie between `low` and `high`. -/
def utf8Tail (low high : UInt8) : Nat → Nat → Bytes → List Char × Bytes
  | 0, bits, rest => ([Char.ofNat bits], rest)
  | _ + 1, _, [] => (malformed, [])
  | n + 1, bits, b :: rest =>
    if low ≤ b ∧ b ≤ high then utf8Tail 0x80 0xBF n (bits * 64 + (b.toNat - 0x80)) rest
    else (malformed, b :: rest)

/-- Reads a UTF-8 sequence. -/
def utf8Unit : ReadUnit := fun b rest =>
  if b < 0x80 then ([Char.ofNat b.toNat], rest)
  else
    match utf8Lead? b with
    | none => (malformed, rest)
    | some lead => utf8Tail lead.low lead.high lead.count lead.bits rest

/-- The text of UTF-8 bytes. -/
def decodeUtf8 (bytes : Bytes) : List Char :=
  decodeUnits utf8Unit bytes

/-- The order of the two bytes of a UTF-16 unit. -/
inductive ByteOrder where
  | bigEndian | littleEndian
  deriving DecidableEq, Repr

/-- The number that two bytes write. -/
def ByteOrder.number (o : ByteOrder) (first second : UInt8) : Nat :=
  match o with
  | .bigEndian => first.toNat * 256 + second.toNat
  | .littleEndian => second.toNat * 256 + first.toNat

/-- Reads a UTF-16 unit, or two if they are a pair of surrogates. -/
def utf16Unit (o : ByteOrder) : ReadUnit := fun first rest =>
  match rest with
  | [] => (malformed, [])
  | second :: rest =>
    let n := o.number first second
    if 0xD800 ≤ n ∧ n ≤ 0xDBFF then
      match rest with
      | third :: fourth :: after =>
        let m := o.number third fourth
        if 0xDC00 ≤ m ∧ m ≤ 0xDFFF then
          ([Char.ofNat (0x10000 + (n - 0xD800) * 1024 + (m - 0xDC00))], after)
        else (malformed, rest)
      | _ => (malformed, [])
    else if 0xDC00 ≤ n ∧ n ≤ 0xDFFF then (malformed, rest)
    else ([Char.ofNat n], rest)

/-- The text of UTF-16 bytes. -/
def decodeUtf16 (o : ByteOrder) (bytes : Bytes) : List Char :=
  decodeUnits (utf16Unit o) bytes

end Hypertext.Charset
