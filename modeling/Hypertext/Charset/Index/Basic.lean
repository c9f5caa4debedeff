/-!
# Indexes

The indexes of the multi-byte encodings: tables from a pointer, which is computed from bytes,
to a character. An index is kept as rows of characters, each with the pointer of its first one;
pointers outside all rows have no character.
-/

namespace Hypertext.Charset.Index

/-- Runs of characters with consecutive pointers, each after the pointer of its first. -/
abbrev Rows := List (Nat × String)

/-- What fills the places of an index that have no character. -/
def vacant : Char := '\ufffd'

/-- Writes characters into consecutive places. -/
def fill (index : Array Char) (start : Nat) : List Char → Array Char
  | [] => index
  | c :: rest => fill (index.setIfInBounds start c) (start + 1) rest

/-- An index of this size with these rows. -/
def ofRows (size : Nat) (rows : Rows) : Array Char :=
  rows.foldl (fun index (start, chars) => fill index start chars.toList)
    (Array.replicate size vacant)

/-- The character at a pointer. -/
def char? (index : Array Char) (pointer : Nat) : Option Char :=
  (index[pointer]?).filter (· ≠ vacant)

end Hypertext.Charset.Index
