import Hypertext.Charset.Decoder.Basic
import Hypertext.Charset.Index.Big5
import Hypertext.Charset.Index.Gb18030
import Hypertext.Charset.Index.JisX0208
import Hypertext.Charset.Index.JisX0212
import Hypertext.Charset.Index.KsX1001

/-!
# Decoding the East Asian encodings

These encodings write a character as one, two, three or four bytes. The bytes give a pointer,
and the pointer gives the character by an index. Where a second byte does not fit, it is read
again if it is ASCII.
-/

namespace Hypertext.Charset

/-- Whether a byte lies between two others. -/
def within (low high : UInt8) (b : UInt8) : Bool :=
  low ≤ b && b ≤ high

/-- An ASCII byte as a character. -/
def asciiChar (b : UInt8) : Char :=
  Char.ofNat b.toNat

/-- The half-width katakana of a byte from A1 on. -/
def halfwidth (b : UInt8) : Char :=
  Char.ofNat (0xFF61 + (b.toNat - 0xA1))

/-- The character at a pointer, or what becomes of the second byte if there is none. -/
def charOrReject (index : Array Char) (pointer : Nat) (second : UInt8) (rest : Bytes) :
    List Char × Bytes :=
  match Index.char? index pointer with
  | some c => ([c], rest)
  | none => rejectSecond second rest

/-- Reads a unit of EUC-KR. -/
def eucKrUnit : ReadUnit := fun b rest =>
  if b < 0x80 then ([asciiChar b], rest)
  else if within 0x81 0xFE b then
    match rest with
    | [] => (malformed, [])
    | c :: rest =>
      if within 0x41 0xFE c then
        charOrReject Index.ksX1001 ((b.toNat - 0x81) * 190 + (c.toNat - 0x41)) c rest
      else rejectSecond c rest
  else (malformed, rest)

/-- The pointers of Big5 that stand for a letter and an accent. -/
def big5Pair? : Nat → Option (List Char)
  | 1133 => some ['\u00ca', '\u0304']
  | 1135 => some ['\u00ca', '\u030c']
  | 1164 => some ['\u00ea', '\u0304']
  | 1166 => some ['\u00ea', '\u030c']
  | _ => none

/-- Reads a unit of Big5. -/
def big5Unit : ReadUnit := fun b rest =>
  if b < 0x80 then ([asciiChar b], rest)
  else if within 0x81 0xFE b then
    match rest with
    | [] => (malformed, [])
    | c :: rest =>
      if within 0x40 0x7E c || within 0xA1 0xFE c then
        let offset := if c < 0x7F then 0x40 else 0x62
        let pointer := (b.toNat - 0x81) * 157 + (c.toNat - offset)
        match big5Pair? pointer with
        | some pair => (pair, rest)
        | none => charOrReject Index.big5 pointer c rest
      else rejectSecond c rest
  else (malformed, rest)

/-- Reads a unit of Shift_JIS. The pointers from 8836 to 10715 are for private use. -/
def shiftJisUnit : ReadUnit := fun b rest =>
  if b ≤ 0x80 then ([asciiChar b], rest)
  else if within 0xA1 0xDF b then ([halfwidth b], rest)
  else if within 0x81 0x9F b || within 0xE0 0xFC b then
    match rest with
    | [] => (malformed, [])
    | c :: rest =>
      if within 0x40 0x7E c || within 0x80 0xFC c then
        let lead := b.toNat - (if b < 0xA0 then 0x81 else 0xC1)
        let trail := c.toNat - (if c < 0x7F then 0x40 else 0x41)
        let pointer := lead * 188 + trail
        if 8836 ≤ pointer ∧ pointer ≤ 10715 then ([Char.ofNat (0xE000 + (pointer - 8836))], rest)
        else charOrReject Index.jisX0208 pointer c rest
      else rejectSecond c rest
  else (malformed, rest)

/-- Reads the last two bytes of a character of EUC-JP. -/
def eucJpPair (index : Array Char) (b : UInt8) (rest : Bytes) : List Char × Bytes :=
  match rest with
  | [] => (malformed, [])
  | c :: rest =>
    if within 0xA1 0xFE c then
      charOrReject index ((b.toNat - 0xA1) * 94 + (c.toNat - 0xA1)) c rest
    else rejectSecond c rest

/-- Reads a unit of EUC-JP: katakana after 8E, three bytes after 8F, and two bytes else. -/
def eucJpUnit : ReadUnit := fun b rest =>
  if b < 0x80 then ([asciiChar b], rest)
  else if b = 0x8E then
    match rest with
    | [] => (malformed, [])
    | c :: rest => if within 0xA1 0xDF c then ([halfwidth c], rest) else rejectSecond c rest
  else if b = 0x8F then
    match rest with
    | [] => (malformed, [])
    | c :: rest =>
      if within 0xA1 0xFE c then eucJpPair Index.jisX0212 c rest else rejectSecond c rest
  else if within 0xA1 0xFE b then eucJpPair Index.jisX0208 b rest
  else (malformed, rest)

/-- The character with this number among those of four bytes. -/
def gb18030Ranged? (number : Nat) : Option Char :=
  if (39419 < number ∧ number < 189000) ∨ 1237575 < number then none
  else if number = 7457 then some '\ue7c7'
  else
    match (Index.gb18030Ranges.takeWhile (·.1 ≤ number)).getLast? with
    | none => none
    | some (start, codePoint) => some (Char.ofNat (codePoint + (number - start)))

/-- Reads a unit of GB 18030, which is also read for GBK. A sequence of four bytes that breaks
off is read again after its first byte. -/
def gb18030Unit : ReadUnit := fun b rest =>
  if b < 0x80 then ([asciiChar b], rest)
  else if b = 0x80 then (['\u20ac'], rest)
  else if b = 0xFF then (malformed, rest)
  else
    match rest with
    | [] => (malformed, [])
    | c :: rest =>
      if within 0x30 0x39 c then
        match rest with
        | [] => (malformed, [])
        | d :: rest =>
          if within 0x81 0xFE d then
            match rest with
            | [] => (malformed, [])
            | e :: rest =>
              if within 0x30 0x39 e then
                let number := ((b.toNat - 0x81) * 10 + (c.toNat - 0x30)) * 1260
                  + (d.toNat - 0x81) * 10 + (e.toNat - 0x30)
                match gb18030Ranged? number with
                | some ch => ([ch], rest)
                | none => (malformed, rest)
              else (malformed, c :: d :: e :: rest)
          else (malformed, c :: d :: rest)
      else if within 0x40 0x7E c || within 0x80 0xFE c then
        let offset := if c < 0x7F then 0x40 else 0x41
        charOrReject Index.gb18030 ((b.toNat - 0x81) * 190 + (c.toNat - offset)) c rest
      else rejectSecond c rest

/-- The character sets that ISO-2022-JP switches between. -/
inductive JisSet where
  | ascii | roman | katakana | kanji
  deriving DecidableEq, Repr

/-- The state of an ISO-2022-JP decoder: the present character set, and whether nothing has
been read since it was selected. -/
structure JisState where
  set : JisSet := .ascii
  fresh : Bool := false
  deriving DecidableEq, Repr

/-- The character set that the two bytes after an escape select. -/
def jisSelected? : UInt8 → UInt8 → Option JisSet
  | 0x28, 0x42 => some .ascii
  | 0x28, 0x4A => some .roman
  | 0x28, 0x49 => some .katakana
  | 0x24, 0x40 => some .kanji
  | 0x24, 0x42 => some .kanji
  | _, _ => none

/-- Reads what follows an escape. Selecting a set twice in a row is malformed. -/
def jisEscape (s : JisState) (rest : Bytes) : JisState × List Char × Bytes :=
  let broken := (⟨s.set, false⟩, malformed, rest)
  match rest with
  | b :: c :: after =>
    match jisSelected? b c with
    | some set => (⟨set, true⟩, if s.fresh then malformed else [], after)
    | none => broken
  | _ => broken

/-- Reads one byte of a set other than kanji. -/
def jisSingle (set : JisSet) (b : UInt8) : List Char :=
  match set with
  | .katakana => if within 0x21 0x5F b then [Char.ofNat (0xFF61 + (b.toNat - 0x21))] else malformed
  | _ =>
    if 0x80 ≤ b ∨ b = 0x0E ∨ b = 0x0F then malformed
    else if set = .roman ∧ b = 0x5C then ['\u00a5']
    else if set = .roman ∧ b = 0x7E then ['\u203e']
    else [asciiChar b]

/-- Reads a unit of ISO-2022-JP. -/
def iso2022JpUnit : ReadUnitWith JisState := fun s b rest =>
  if b = 0x1B then jisEscape s rest
  else
    let s := { s with fresh := false }
    if s.set ≠ .kanji then (s, jisSingle s.set b, rest)
    else if !within 0x21 0x7E b then (s, malformed, rest)
    else
      match rest with
      | [] => (s, malformed, [])
      | c :: after =>
        if c = 0x1B then (s, malformed, rest)
        else if within 0x21 0x7E c then
          match Index.char? Index.jisX0208 ((b.toNat - 0x21) * 94 + (c.toNat - 0x21)) with
          | some ch => (s, [ch], after)
          | none => (s, malformed, after)
        else (s, malformed, after)

end Hypertext.Charset
