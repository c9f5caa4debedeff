import Hypertext.Charset.Decoder.EastAsian
import Hypertext.Charset.Decoder.Unicode
import Hypertext.Charset.UpperHalf

/-!
# Decoding by encoding

The text of bytes in each of the encodings, without regard to byte order marks. In most encodings
every byte is a character, and the lower half is ASCII.
-/

namespace Hypertext.Charset

/-- Reads a byte, given the characters of the bytes from 128 on. -/
def singleByteUnit (upper : Array Char) : ReadUnit := fun b rest =>
  if b < 0x80 then ([Char.ofNat b.toNat], rest)
  else ([upper.getD (b.toNat - 0x80) '\ufffd'], rest)

/-- Reads a byte of a private encoding, which puts the upper half at U+F780. -/
def userDefinedUnit : ReadUnit := fun b rest =>
  if b < 0x80 then ([Char.ofNat b.toNat], rest)
  else ([Char.ofNat (0xF780 + (b.toNat - 0x80))], rest)

/-- The text of some bytes. Documents in the replacement encoding are not read at all; they
become one U+FFFD, unless they are empty. -/
def Encoding.chars (e : Encoding) (bytes : Bytes) : List Char :=
  match e with
  | .utf8 => decodeUtf8 bytes
  | .utf16be => decodeUtf16 .bigEndian bytes
  | .utf16le => decodeUtf16 .littleEndian bytes
  | .gbk | .gb18030 => decodeUnits gb18030Unit bytes
  | .big5 => decodeUnits big5Unit bytes
  | .eucJp => decodeUnits eucJpUnit bytes
  | .iso2022Jp => decodeFrom iso2022JpUnit {} bytes
  | .shiftJis => decodeUnits shiftJisUnit bytes
  | .eucKr => decodeUnits eucKrUnit bytes
  | .replacement => if bytes.isEmpty then [] else malformed
  | .userDefined => decodeUnits userDefinedUnit bytes
  | _ => decodeUnits (singleByteUnit (upperHalf e).toList.toArray) bytes

end Hypertext.Charset
