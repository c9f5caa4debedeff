import Hypertext.Document.Lexer.Comment
import Hypertext.Document.Lexer.Doctype
import Hypertext.Document.Lexer.Script
import Hypertext.Document.Lexer.Tag

/-!
# Reading tokens

A document is read token by token, since the way in which it is read on may depend on the
tokens so far: some start tags turn what follows into text. The text ends at the end tag of the
same name, and reading goes on as markup.

Newlines are made uniform before, and one byte order mark at the very beginning is dropped.
-/

namespace Hypertext.Document

/-- A document with each carriage return, alone or before a line feed, turned into a line feed.
The characters so far are in `done`, last one first. -/
def uniformNewlines : List Char → List Char → List Char
  | [], done => done.reverse
  | c :: rest, done =>
    if c = '\r' then
      match rest with
      | '\n' :: rest => uniformNewlines rest ('\n' :: done)
      | rest => uniformNewlines rest ('\n' :: done)
    else uniformNewlines rest (c :: done)

/-- A document as it is read. -/
def normalize (s : List Char) : List Char :=
  match s with
  | '\ufeff' :: s => uniformNewlines s []
  | s => uniformNewlines s []

/-- The tokens that were read, and how and where reading goes on. -/
structure Lexed where
  tokens : List Token
  syntaxAfter : Syntax
  rest : List Char

/-- A run of text as a token, unless it is empty. -/
def textToken (data : List Char) : List Token :=
  if data.isEmpty then [] else [.text .mixed data]

/-- A reference in text. -/
def lexTextReference (current : Syntax) (s : List Char) : Lexed :=
  match lexReference? false s with
  | some r =>
    let text := r.chars.map fun c => Token.text .mixed [c]
    ⟨if r.unterminated then .mistake :: text else text, current, r.rest⟩
  | none => ⟨[.text .mixed ['&']], current, s⟩

/-- The end of a section of character data, if it is here. -/
def sectionEnd? : List Char → Option (List Char)
  | ']' :: ']' :: '>' :: rest => some rest
  | _ => none

/-- The tokens of a section of character data, and what comes after it. The text so far is in
`done`, last character first. -/
def lexSection : List Char → List Char → List Token × List Char
  | [], done => (textToken done.reverse, [])
  | c :: rest, done =>
    match sectionEnd? (c :: rest) with
    | some rest => (textToken done.reverse, rest)
    | none =>
      if c = '\x00' then
        let (tokens, rest) := lexSection rest []
        (textToken done.reverse ++ .null :: tokens, rest)
      else lexSection rest (c :: done)

/-- A comment token after its delimiter. -/
def commentLexed (r : List Char × List Char) : Lexed :=
  ⟨[.comment (String.ofList r.1)], .markup, r.2⟩

/-- What follows `<!`. Sections of character data are recognized only where `sections` allows
them. -/
def lexDeclaration (sections : Bool) (s : List Char) : Lexed :=
  match s with
  | '-' :: '-' :: s => commentLexed (lexComment .start s [])
  | s =>
    match afterWord? "doctype".toList s with
    | some s =>
      let d := lexDoctype s
      ⟨[.doctype d.doctype], .markup, d.rest⟩
    | none =>
      match s, sections with
      | '[' :: 'C' :: 'D' :: 'A' :: 'T' :: 'A' :: '[' :: s, true =>
        let (tokens, rest) := lexSection s []
        ⟨tokens, .markup, rest⟩
      | s, _ => commentLexed (lexBogusComment s)

/-- A start tag from its name on. -/
def lexStartTag (fuel : Nat) (s : List Char) : Lexed :=
  match lexTag fuel s with
  | some t => ⟨[.startTag t.tag], .markup, t.rest⟩
  | none => ⟨[], .markup, []⟩

/-- An end tag from its name on; its attributes are of no use. -/
def lexEndTag (fuel : Nat) (s : List Char) : Lexed :=
  match lexTag fuel s with
  | some t => ⟨[.endTag t.tag.name], .markup, t.rest⟩
  | none => ⟨[], .markup, []⟩

/-- What follows `</`. -/
def lexAfterSlash (fuel : Nat) (s : List Char) : Lexed :=
  match s with
  | [] => ⟨[.text .mixed ['<', '/']], .markup, []⟩
  | '>' :: rest => ⟨[.mistake], .markup, rest⟩
  | c :: rest =>
    if isLetter c then lexEndTag fuel (c :: rest)
    else commentLexed (lexBogusComment (c :: rest))

/-- What follows `<` in markup. -/
def lexAfterLess (sections : Bool) (fuel : Nat) (s : List Char) : Lexed :=
  match s with
  | '!' :: s => lexDeclaration sections s
  | '/' :: s => lexAfterSlash fuel s
  | '?' :: _ => commentLexed (lexBogusComment s)
  | c :: _ => if isLetter c then lexStartTag fuel s else ⟨[.text .mixed ['<']], .markup, s⟩
  | [] => ⟨[.text .mixed ['<']], .markup, s⟩

/-- Whether a character has a meaning of its own in markup. -/
def isMarkup (c : Char) : Bool :=
  c == '<' || c == '&' || c == '\x00'

/-- Reads tokens from a document that goes on with `c`. The name is that of the last start tag;
`sections` tells whether sections of character data are recognized. -/
def lexNext (current : Syntax) (name : String) (sections : Bool) (fuel : Nat) (c : Char)
    (rest : List Char) : Lexed :=
  let raw := fun (stops : Char → Bool) =>
    let text := c :: rest.takeWhile (!stops ·)
    (⟨textToken (text.map visible), current, rest.dropWhile (!stops ·)⟩ : Lexed)
  match current with
  | .markup =>
    if c = '<' then lexAfterLess sections fuel rest
    else if c = '&' then lexTextReference current rest
    else if c = '\x00' then ⟨[.null], .markup, rest⟩
    else raw isMarkup
  | .escapableText =>
    if c = '<' && startsEndTag name rest then lexEndTag fuel (rest.drop 1)
    else if c = '&' then lexTextReference current rest
    else raw fun c => c == '<' || c == '&'
  | .rawText =>
    if c = '<' && startsEndTag name rest then lexEndTag fuel (rest.drop 1)
    else raw (· == '<')
  | .script =>
    if c = '<' && startsEndTag name rest then lexEndTag fuel (rest.drop 1)
    else
      let (text, rest) := lexScript name .plain (c :: rest) []
      ⟨textToken text, current, rest⟩
  | .plainText => raw fun _ => false

end Hypertext.Document
