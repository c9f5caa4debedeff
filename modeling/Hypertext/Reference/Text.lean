import Hypertext.Reference.Numeric
import Hypertext.Reference.Standard

/-!
# References in text

Writing text so that it survives in markup, and reading it back. Six characters are written as
references. Reading resolves named and numeric references, and keeps whatever is none.

A named reference is looked up whole first, with its semicolon if one follows; failing that,
its longest beginning that is an old name without a semicolon counts, and the rest is text.
-/

namespace Hypertext.Reference

/-- The written form of a character. -/
def written (c : Char) : List Char :=
  match c with
  | '&' => ['&', 'a', 'm', 'p', ';']
  | '\'' => ['&', '#', '3', '9', ';']
  | '<' => ['&', 'l', 't', ';']
  | '>' => ['&', 'g', 't', ';']
  | '"' => ['&', '#', '3', '4', ';']
  | '\r' => ['&', '#', '1', '3', ';']
  | c => [c]

/-- Whether a character is written as a reference. -/
def isEscaped (c : Char) : Bool :=
  c == '&' || c == '\'' || c == '<' || c == '>' || c == '"' || c == '\r'

/-- Writes text for markup or for a quoted attribute value. -/
def escape (s : String) : String :=
  String.ofList (s.toList.flatMap written)

/-- Whether a text is its own written form. -/
def isPlain (s : String) : Bool :=
  !s.toList.any isEscaped

/-- Letters and digits of names. -/
def isNameChar (c : Char) : Bool :=
  c.isAlphanum

/-- The number of characters in the longest name without a semicolon. -/
def longestUnterminated : Nat := 6

/-- The longest beginning of `name` that is in the table, of at most `n` and at least two
characters: its expansion and its length. -/
def longestBelow (table : List Char → Option Expansion) (name : List Char) :
    Nat → Option (Expansion × Nat)
  | 0 => none
  | 1 => none
  | n + 2 =>
    match table (name.take (n + 2)) with
    | some e => some (e, n + 2)
    | none => longestBelow table name (n + 1)

/-- Reads a named reference after its ampersand: its expansion and the number of characters of
its name, with the semicolon if it has one. -/
def named? (table : List Char → Option Expansion) (s : List Char) : Option (Expansion × Nat) :=
  let run := s.takeWhile isNameChar
  if run.isEmpty then none
  else
    let semicolon := (s.drop run.length).take 1 |>.takeWhile (· == ';')
    let name := run ++ semicolon
    match table name with
    | some e => some (e, name.length)
    | none => longestBelow table name (min (name.length - 1) longestUnterminated)

/-- Reads a reference after its ampersand: the characters it stands for and what comes after. -/
def reference? (table : List Char → Option Expansion) :
    List Char → Option (List Char × List Char)
  | '#' :: s => (numeric? s).map fun n => ([n.char], n.rest)
  | s => (named? table s).map fun (e, n) => (e.chars, s.drop n)

/-- Resolves the references of a text, with the characters read so far in `done`, last one
first. Every round reads at least one character, so the length of the text is fuel enough. -/
def resolveOnto (table : List Char → Option Expansion) :
    Nat → List Char → List Char → List Char
  | 0, _, done => done.reverse
  | _, [], done => done.reverse
  | fuel + 1, c :: rest, done =>
    if c = '&' then
      match reference? table rest with
      | some (chars, rest) => resolveOnto table fuel rest (chars.reverse ++ done)
      | none => resolveOnto table fuel rest ('&' :: done)
    else resolveOnto table fuel rest (c :: done)

/-- The text that markup text stands for. -/
def resolve (table : List Char → Option Expansion) (s : List Char) : List Char :=
  resolveOnto table s.length s []

/-- The text that markup text stands for, by the standard table. -/
def unescape (s : String) : String :=
  String.ofList (resolve standard s.toList)

/-- Whether a text holds no ampersand, and so no reference. -/
def isResolved (s : String) : Bool :=
  !s.toList.any (· == '&')

end Hypertext.Reference
