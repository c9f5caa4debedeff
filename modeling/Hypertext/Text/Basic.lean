/-!
# Texts

What the library asks of texts. The blanks that cut a text into words are the five of markup:
space, tab, line feed, form feed and carriage return; no other space character separates words.
The bytes of a text are those of UTF-8.
-/

namespace Hypertext

/-! ## Words -/

/-- Space, tab, line feed, form feed and carriage return. -/
def isBlank (c : Char) : Bool :=
  c == ' ' || c == '\t' || c == '\n' || c == '\x0c' || c == '\r'

/-- The words of a text that goes on after `word`, the word being read, last character first. -/
def wordsFrom (word : List Char) : List Char → List (List Char)
  | [] => if word.isEmpty then [] else [word.reverse]
  | c :: rest =>
    if isBlank c then
      if word.isEmpty then wordsFrom [] rest else word.reverse :: wordsFrom [] rest
    else wordsFrom (c :: word) rest

/-- The maximal runs of characters other than blanks, in order. -/
def words (s : List Char) : List (List Char) :=
  wordsFrom [] s

/-! ## Bytes -/

/-- Bytes in order. -/
abbrev Bytes := List UInt8

/-- The bytes of a text. -/
def bytesOf (s : String) : Bytes :=
  s.toUTF8.toList

end Hypertext
