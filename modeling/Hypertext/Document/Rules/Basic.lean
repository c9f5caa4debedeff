import Hypertext.Document.Builder

/-!
# Rules

A rule takes the next token and says how the document changes, and what happens then: usually
nothing, but a token may have to be looked at again in another mode, or the way in which
characters are read may change.
-/

namespace Hypertext.Document

/-- What happens after a rule. -/
inductive Next where
  /-- The token has been dealt with. -/
  | done
  /-- The token is looked at again, in this mode. -/
  | again (mode : Mode) (token : Token)
  /-- The text is looked at again in runs that are blank or solid. -/
  | split (data : List Char)
  /-- Characters are read in another way from here on. -/
  | read (how : Syntax)
  deriving Repr

/-- The effect of a rule. -/
abbrev Effect := Builder × Next

namespace Builder

/-- The token has been dealt with. -/
def done (b : Builder) : Effect := (b, .done)

/-- The token is looked at again, in another mode. -/
def again (b : Builder) (mode : Mode) (token : Token) : Effect := (b, .again mode token)

/-- The text is cut into runs first. -/
def split (b : Builder) (data : List Char) : Effect := (b, .split data)

/-- The content of the element of this tag is text. -/
def readText (b : Builder) (tag : StartTag) (how : Syntax) : Effect :=
  (b.startText tag, .read how)

/-- Attributes of a second `html` tag go to the outermost element, outside templates. -/
def mergeHtml (b : Builder) (tag : StartTag) : Effect :=
  match b.root? with
  | some root =>
    if b.hasOpen "template" then b.done
    else { b with draft := b.draft.addMissing root tag.attributes }.done
  | none => b.done

/-- Adds text that may end the hope for a set of frames. -/
def addBodyText (b : Builder) (data : List Char) : Builder :=
  let b := b.restartFormatting
  (if data.all isBlank then b else b.noFrameset).addText data

end Builder

end Hypertext.Document
