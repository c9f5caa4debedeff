import Hypertext.Charset.Detection
import Hypertext.Document.Lexer
import Hypertext.Document.Rules.Frames
import Hypertext.Document.Rules.Table

/-!
# Reading documents

Any text is a document: tokens are read and the rules for them are applied until the text ends.
What the text lacks is supplied, so that a document always has its outermost element, with a
head, and a body or a set of frames. Nothing is refused: mistakes are mended as readers of documents
have agreed to do. A document that is given as bytes is decoded first.
-/

namespace Hypertext

namespace Document

namespace Builder

/-- The rules of a mode. -/
def rulesOf : Mode → Builder → Token → Effect
  | .initial => initialRules
  | .beforeHtml => beforeHtmlRules
  | .beforeHead => beforeHeadRules
  | .inHead => headRules
  | .inHeadNoscript => headNoscriptRules
  | .afterHead => afterHeadRules
  | .inBody => bodyRules
  | .text => textRules
  | .inTable => tableRules
  | .inTableText => tableTextRules
  | .inCaption => captionRules
  | .inColumnGroup => columnGroupRules
  | .inTableBody => tableBodyRules
  | .inRow => rowRules
  | .inCell => cellRules
  | .inSelect => selectRules
  | .inSelectInTable => selectInTableRules
  | .inTemplate => templateRules
  | .afterBody => afterBodyRules
  | .inFrameset => framesetRules
  | .afterFrameset => afterFramesetRules
  | .afterAfterBody => afterAfterBodyRules
  | .afterAfterFrameset => afterAfterFramesetRules

/-- The effect of a token, by the rules of the present mode and vocabulary. -/
def apply (b : Builder) (token : Token) : Effect :=
  let rules := fun (b : Builder) (token : Token) => rulesOf b.mode b token
  if b.isForeign token then b.foreignRules rules token else rules b token

/-- The first run of a text that is blank or solid, and the rest of the text. -/
def firstRun (data : List Char) : TextKind × List Char × List Char :=
  match data with
  | [] => (.blank, [], [])
  | c :: _ =>
    let blank := isBlank c
    let run := data.takeWhile (isBlank · == blank)
    (if blank then .blank else .solid, run, data.drop run.length)

/-- Applies the rules for some tokens, and for what becomes of them, and tells whether
characters are read in another way after that. -/
def settle : Nat → Builder → List Token → Builder × Option Syntax
  | 0, b, _ => (b, none)
  | _, b, [] => (b, none)
  | fuel + 1, b, token :: rest =>
    match b.apply token with
    | (b, .done) => settle fuel b rest
    | (b, .again mode token) => settle fuel { b with mode } (token :: rest)
    | (b, .split data) =>
      let (kind, run, after) := firstRun data
      settle fuel b
        (.text kind run :: (if after.isEmpty then rest else .text .mixed after :: rest))
    | (b, .read how) => (b, some how)

/-- More rounds than a token can go through: each looks at it in another mode or ends an
element, or deals with a character. -/
def rounds (b : Builder) (token : Token) : Nat :=
  let length := match token with
    | .text _ data => data.length
    | _ => 0
  16 * (b.stack.length + b.templateModes.length + length + 4)

/-- Takes in a token from the document. -/
def accept (b : Builder) (token : Token) : Builder × Option Syntax :=
  let dropNewline := b.dropNewline
  let b := { b with dropNewline := false }
  match token with
  | .mistake => (b, none)
  | .doctype d => (b.addDoctype d, none)
  | .text kind data =>
    let data := match dropNewline, data with
      | true, '\n' :: rest => rest
      | _, data => data
    if data.isEmpty then (b, none)
    else settle (b.rounds (.text kind data)) b [.text kind data]
  | token => settle (b.rounds token) b [token]

/-- Takes in several tokens. -/
def acceptAll (b : Builder) : List Token → Builder × Option Syntax
  | [] => (b, none)
  | [token] => b.accept token
  | token :: rest => (b.accept token).1.acceptAll rest

end Builder

/-- How far a document has been read. -/
structure Reader where
  builder : Builder := {}
  how : Syntax := .markup
  /-- The name of the last start tag. -/
  lastTag : String := ""

namespace Reader

/-- The name of the last start tag, after some tokens. -/
def lastTagAfter (lastTag : String) (tokens : List Token) : String :=
  tokens.foldl (fun last token =>
    match token with
    | .startTag tag => tag.name
    | _ => last) lastTag

/-- Reads the rest of a document; every round reads at least one character. -/
def run : Nat → Reader → List Char → Builder
  | 0, r, _ => r.builder
  | _, r, [] => r.builder
  | fuel + 1, r, c :: rest =>
    let lexed := lexNext r.how r.lastTag r.builder.allowsSections fuel c rest
    let (builder, how) := r.builder.acceptAll lexed.tokens
    let lastTag := lastTagAfter r.lastTag lexed.tokens
    run fuel { builder, how := how.getD lexed.syntaxAfter, lastTag } lexed.rest

end Reader

/-- The document that a text stands for. -/
def read (s : List Char) : Dom :=
  let s := normalize s
  let b := Reader.run (s.length + 1) {} s
  (b.accept .endOfFile).1.draft.finish

end Document

/-- The tree of a document. -/
def parse (html : String) : Tree :=
  (Document.read html.toList).toTree

/-- The tree of a document that is given as bytes, in the encoding that they call for. -/
def parseBytes (bytes : Bytes) : Tree :=
  parse (String.ofList (Charset.decode bytes).1)

end Hypertext
