import Hypertext.Charset.Decoder
import Hypertext.Text.Pattern
import Hypertext.Text.Basic

/-!
# Detecting the encoding

The encoding of a document comes from its byte order mark, or else from what its first 1024
bytes declare, or else it is UTF-8. A declaration is a `meta` tag with a `charset` attribute,
or one that stands for a `Content-Type` header. A declared label that is not known counts as
none.
-/

namespace Hypertext.Charset

/-- The space characters of Unicode. -/
def isSpace (c : Char) : Bool :=
  let n := c.toNat
  (0x09 ≤ n && n ≤ 0x0D) || n == 0x20 || n == 0x85 || n == 0xA0 || n == 0x1680
    || (0x2000 ≤ n && n ≤ 0x200A) || n == 0x2028 || n == 0x2029 || n == 0x202F || n == 0x205F
    || n == 0x3000

/-- Whether `d` is the small letter or sign `c` up to case. The long s counts as an s, and the
Kelvin sign as a k. -/
def caseless (c d : Char) : Bool :=
  d == c || d.toLower == c || (c == 's' && d == '\u017f') || (c == 'k' && d == '\u212a')

/-- The pieces that spell a word in any case. -/
def spelled (word : String) : Pattern :=
  word.toList.map fun c => ⟨.one, caseless c⟩

/-- Any number of spaces. -/
def spaces : Piece := ⟨.any, isSpace⟩

/-- Single and double quotes. -/
def isQuote (c : Char) : Bool :=
  c == '"' || c == '\''

/-- An equals sign with spaces around it. -/
def equals : Pattern :=
  [spaces] ++ spelled "=" ++ [spaces]

/-- A quote, or none. -/
def maybeQuote : Piece := ⟨.optional, isQuote⟩

/-- At least one character that does not end a tag. -/
def withinTag : Piece := ⟨.some, (· != '>')⟩

/-- The characters of labels. -/
def isLabelChar (c : Char) : Bool :=
  !(isQuote c || isSpace c || c == '>' || c == ';')

/-- A label. -/
def label : Piece := ⟨.some, isLabelChar⟩

/-- A `meta` tag with a `charset` attribute; captures the label. -/
def charsetAttribute : Pattern :=
  spelled "<meta" ++ [withinTag] ++ spelled "charset" ++ equals ++ [maybeQuote, label]

/-- A `meta` tag that stands for a `Content-Type` header with a `charset` parameter; captures
the label. -/
def contentType : Pattern :=
  spelled "<meta" ++ [withinTag] ++ spelled "http-equiv" ++ equals ++ [maybeQuote]
    ++ spelled "content-type" ++ [maybeQuote, withinTag] ++ spelled "content" ++ equals
    ++ [maybeQuote, ⟨.any, fun c => !(isQuote c || c == '>')⟩] ++ spelled ";" ++ [spaces]
    ++ spelled "charset" ++ equals ++ [label]

/-- The label that the head of a document declares: by an attribute, or else by a header. -/
def declaredLabel? (head : List Char) : Option (List Char) :=
  match charsetAttribute.search? head with
  | some label => some label
  | none => contentType.search? head

/-- The encoding that a label asks for. -/
def Encoding.ofDeclared? (label : List Char) : Option Encoding :=
  let trimmed := (label.dropWhile isBlank).reverse.dropWhile isBlank |>.reverse
  ofLabel? (String.ofList (trimmed.map Char.toLower))

/-- The number of bytes that are searched for a declaration. -/
def headLength : Nat := 1024

/-- The beginning of a document, as it is searched for a declaration. -/
def headOf (bytes : Bytes) : List Char :=
  decodeUtf8 (bytes.take headLength)

/-- The encoding that a byte order mark stands for, and the bytes after the mark. -/
def byteOrderMark? : Bytes → Option (Encoding × Bytes)
  | 0xEF :: 0xBB :: 0xBF :: rest => some (.utf8, rest)
  | 0xFE :: 0xFF :: rest => some (.utf16be, rest)
  | 0xFF :: 0xFE :: rest => some (.utf16le, rest)
  | _ => none

/-- The encoding of a document. -/
def detect (bytes : Bytes) : Encoding :=
  match byteOrderMark? bytes with
  | some (e, _) => e
  | none => ((declaredLabel? (headOf bytes)).bind Encoding.ofDeclared?).getD .utf8

/-- The text of a document without its byte order mark, and its encoding. -/
def decode (bytes : Bytes) : List Char × Encoding :=
  match byteOrderMark? bytes with
  | some (e, rest) => (e.chars rest, e)
  | none =>
    let e := detect bytes
    (e.chars bytes, e)

end Hypertext.Charset
