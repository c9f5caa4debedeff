import Hypertext.Document.Lexer.Basic

/-!
# Reading tags

A tag is a name and attributes up to a `>`. An attribute is a key, and perhaps an equals sign
and a value, in quotes or up to a blank. Of two attributes with one key the first is kept. A
tag that the document breaks off is dropped.
-/

namespace Hypertext.Document

/-- A tag that was read, with what comes after it. -/
structure LexedTag where
  tag : StartTag
  rest : List Char

/-- Whether a character ends the name of a tag. -/
def endsTagName (c : Char) : Bool :=
  isBlank c || c == '/' || c == '>'

/-- Whether a character ends the key of an attribute. -/
def endsKey (c : Char) : Bool :=
  endsTagName c || c == '='

/-- The value of an attribute up to a character that `stops` accepts, and what comes after from
that character on; nothing if there is no such character. The value so far is in `done`, last
character first. -/
def lexValue (stops : Char → Bool) : Nat → List Char → List Char → Option (String × List Char)
  | 0, _, _ => none
  | _, [], _ => none
  | fuel + 1, c :: rest, done =>
    if stops c then some (String.ofList done.reverse, c :: rest)
    else if c = '&' then
      match lexReference? true rest with
      | some r => lexValue stops fuel r.rest (r.chars.reverse ++ done)
      | none => lexValue stops fuel rest ('&' :: done)
    else lexValue stops fuel rest (visible c :: done)

/-- The value after an equals sign and blanks. Quotes belong to neither the value nor to what
comes after it. -/
def lexAttributeValue (fuel : Nat) (s : List Char) : Option (String × List Char) :=
  match s with
  | '"' :: s => (lexValue (· == '"') fuel s []).map fun (v, rest) => (v, rest.drop 1)
  | '\'' :: s => (lexValue (· == '\'') fuel s []).map fun (v, rest) => (v, rest.drop 1)
  | '>' :: s => some ("", '>' :: s)
  | s => lexValue (fun c => isBlank c || c == '>') fuel s []

/-- Adds an attribute, unless its key is there already; the last attribute comes first. -/
def addAttribute (attributes : List Attribute) (key value : String) : List Attribute :=
  if attributes.any (·.key == key) then attributes else ⟨key, value⟩ :: attributes

/-- The rest of a tag after its name, with the attributes so far, last one first. -/
def lexAttributes (name : String) : Nat → List Char → List Attribute → Option LexedTag
  | 0, _, _ => none
  | _, [], _ => none
  | fuel + 1, c :: rest, attributes =>
    if isBlank c then lexAttributes name fuel rest attributes
    else if c = '>' then some ⟨⟨name, attributes.reverse, false⟩, rest⟩
    else if c = '/' then
      match rest with
      | '>' :: rest => some ⟨⟨name, attributes.reverse, true⟩, rest⟩
      | rest => lexAttributes name fuel rest attributes
    else
      let key := String.ofList (nameChar c :: (rest.takeWhile (!endsKey ·)).map nameChar)
      match (rest.dropWhile (!endsKey ·)).dropWhile isBlank with
      | '=' :: rest =>
        match lexAttributeValue fuel (rest.dropWhile isBlank) with
        | some (value, rest) =>
          lexAttributes name fuel rest (addAttribute attributes key value)
        | none => none
      | rest => lexAttributes name fuel rest (addAttribute attributes key "")

/-- A tag from the first letter of its name on; nothing if the document breaks it off. -/
def lexTag (fuel : Nat) (s : List Char) : Option LexedTag :=
  let name := String.ofList ((s.takeWhile (!endsTagName ·)).map nameChar)
  lexAttributes name fuel (s.dropWhile (!endsTagName ·)) []

/-- Whether an end tag of this name stands here, after its `<`. -/
def startsEndTag (name : String) (s : List Char) : Bool :=
  match s with
  | '/' :: s =>
    let letters := s.takeWhile isLetter
    match s.drop letters.length with
    | c :: _ => endsTagName c && letters.map Char.toLower == name.toList
    | [] => false
  | _ => false

end Hypertext.Document
