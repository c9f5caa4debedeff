import Hypertext.Document.Lexer.Basic

/-!
# Reading document types

A declaration gives a name, and then perhaps a public identifier, a system identifier, or both.
Where it deviates from that it is broken, and the rest of it is passed over.
-/

namespace Hypertext.Document

/-- A declaration that was read, with what comes after it. -/
structure LexedDoctype where
  doctype : DoctypeToken
  rest : List Char

/-- A broken declaration. -/
def brokenDoctype (d : DoctypeToken) (rest : List Char) : LexedDoctype :=
  ⟨{ d with broken := true }, rest⟩

/-- What comes after the next `>`. -/
def afterTag (s : List Char) : List Char :=
  (s.dropWhile (· != '>')).drop 1

/-- What follows an identifier in quotes: the identifier as far as it goes, the rest after its
closing quote, or nothing if the declaration ends before. -/
def lexQuotedId (quote : Char) (s : List Char) : String × Option (List Char) × List Char :=
  let inside := fun c => c != quote && c != '>'
  let id := String.ofList ((s.takeWhile inside).map visible)
  match s.dropWhile inside with
  | [] => (id, none, [])
  | c :: rest => if c = quote then (id, some rest, rest) else (id, none, rest)

/-- The rest of a declaration where its system identifier may stand; after `SYSTEM` it has to. -/
def lexSystemId (required : Bool) (d : DoctypeToken) (s : List Char) : LexedDoctype :=
  let withId := fun quote s =>
    match lexQuotedId quote s with
    | (id, none, rest) => brokenDoctype { d with systemId := some id } rest
    | (id, some after, _) =>
      let d := { d with systemId := some id }
      match after.dropWhile isBlank with
      | [] => brokenDoctype d []
      | rest => ⟨d, afterTag rest⟩
  match s.dropWhile isBlank with
  | [] => brokenDoctype d []
  | '"' :: s => withId '"' s
  | '\'' :: s => withId '\'' s
  | '>' :: rest => if required then brokenDoctype d rest else ⟨d, rest⟩
  | s => brokenDoctype d (afterTag s)

/-- The rest of a declaration after `PUBLIC`. -/
def lexPublicId (d : DoctypeToken) (s : List Char) : LexedDoctype :=
  let withId := fun quote s =>
    match lexQuotedId quote s with
    | (id, none, rest) => brokenDoctype { d with publicId := some id } rest
    | (id, some rest, _) => lexSystemId false { d with publicId := some id } rest
  match s.dropWhile isBlank with
  | [] => brokenDoctype d []
  | '"' :: s => withId '"' s
  | '\'' :: s => withId '\'' s
  | '>' :: rest => brokenDoctype d rest
  | s => brokenDoctype d (afterTag s)

/-- The rest of a declaration after its name. -/
def lexAfterName (d : DoctypeToken) (s : List Char) : LexedDoctype :=
  match s.dropWhile isBlank with
  | [] => brokenDoctype d []
  | '>' :: rest => ⟨d, rest⟩
  | s =>
    match afterWord? "public".toList s with
    | some rest => lexPublicId d rest
    | none =>
      match afterWord? "system".toList s with
      | some rest => lexSystemId true d rest
      | none => brokenDoctype d (afterTag s)

/-- A declaration after `<!DOCTYPE`. -/
def lexDoctype (s : List Char) : LexedDoctype :=
  match s.dropWhile isBlank with
  | [] => brokenDoctype {} []
  | '>' :: rest => brokenDoctype {} rest
  | s =>
    let inside := fun c => !(isBlank c || c == '>')
    let name := String.ofList ((s.takeWhile inside).map nameChar)
    lexAfterName { name := some name } (s.dropWhile inside)

end Hypertext.Document
