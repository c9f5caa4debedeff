import Hypertext.Document.Token
import Hypertext.Reference.Text
import Hypertext.Text.Basic

/-!
# Reading characters

What the readers of all parts of a document share: letters in small form, the sign that stands
for the character with number zero, names up to a delimiter, and references.
-/

namespace Hypertext.Document

/-- Letters of names. -/
def isLetter (c : Char) : Bool :=
  c.isAlpha

/-- A character as it is kept in texts that must not hold the character with number zero. -/
def visible (c : Char) : Char :=
  if c = '\x00' then Reference.replacement else c

/-- A character as it is kept in names: in small form. -/
def nameChar (c : Char) : Char :=
  visible c.toLower

/-- Whether a text begins with a word, in any case; the word is in small letters. What comes
after it is returned. -/
def afterWord? : List Char → List Char → Option (List Char)
  | [], s => some s
  | _ :: _, [] => none
  | w :: word, c :: s => if c.toLower = w then afterWord? word s else none

/-- A reference in a document: the characters it stands for, whether it lacks the semicolon
that a numeric reference should have, and what comes after it. -/
structure LexedReference where
  chars : List Char
  unterminated : Bool
  rest : List Char

/-- Reads a reference after its ampersand, by the standard table. In an attribute value a name
without a semicolon is no reference if an equals sign, a letter or a digit follows. -/
def lexReference? (inAttribute : Bool) (s : List Char) : Option LexedReference :=
  match s with
  | '#' :: s => (Reference.numeric? s).map fun n => ⟨[n.char], !n.terminated, n.rest⟩
  | s =>
    match Reference.named? Reference.standard s with
    | none => none
    | some (e, n) =>
      let rest := s.drop n
      let open_ := (s.take n).getLast? != some ';'
      let goesOn := match rest with
        | [] => false
        | c :: _ => c == '=' || Reference.isNameChar c
      if inAttribute && open_ && goesOn then none else some ⟨e.chars, false, rest⟩

end Hypertext.Document
