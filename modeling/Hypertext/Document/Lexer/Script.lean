import Hypertext.Document.Lexer.Tag

/-!
# Reading scripts

The text of a script goes on to its end tag. But between `<!--` and `-->` a `<script` hides the
end tags after it, until `</script` has been read or the comment ends.
-/

namespace Hypertext.Document

/-- What has been read of a script, as far as the meaning of an end tag depends on it. -/
inductive ScriptState where
  | plain | plainLess
  /-- After `<!`, and after `<!-`. -/
  | opening | openingDash
  /-- Inside a comment. -/
  | comment | commentDash | commentDashDash | commentLess
  /-- Inside a comment, in the name of a start tag. -/
  | startName (name : List Char)
  /-- Inside a comment, after `<script`. -/
  | hidden | hiddenDash | hiddenDashDash | hiddenLess
  /-- Inside a comment, after `<script`, in the name of an end tag. -/
  | endName (name : List Char)
  deriving DecidableEq, Repr

namespace ScriptState

/-- The state after a character outside comments. -/
def afterPlain (c : Char) : ScriptState :=
  if c = '<' then .plainLess else .plain

/-- The state after a character in a comment. -/
def afterComment (c : Char) : ScriptState :=
  if c = '-' then .commentDash else if c = '<' then .commentLess else .comment

/-- The state after a character in the hidden part of a comment. -/
def afterHidden (c : Char) : ScriptState :=
  if c = '-' then .hiddenDash else if c = '<' then .hiddenLess else .hidden

/-- Whether the letters of a name, last one first, spell `script`. -/
def isScript (name : List Char) : Bool :=
  name == ['t', 'p', 'i', 'r', 'c', 's']

/-- The state after one more character. -/
def next : ScriptState → Char → ScriptState
  | .plain, c => afterPlain c
  | .plainLess, c => if c = '!' then .opening else afterPlain c
  | .opening, c => if c = '-' then .openingDash else afterPlain c
  | .openingDash, c => if c = '-' then .commentDashDash else afterPlain c
  | .comment, c => afterComment c
  | .commentDash, c => if c = '-' then .commentDashDash else afterComment c
  | .commentDashDash, c =>
    if c = '-' then .commentDashDash else if c = '>' then .plain else afterComment c
  | .commentLess, c => if isLetter c then .startName [c.toLower] else afterComment c
  | .startName name, c =>
    if endsTagName c then (if isScript name then .hidden else .comment)
    else if isLetter c then .startName (c.toLower :: name)
    else afterComment c
  | .hidden, c => afterHidden c
  | .hiddenDash, c => if c = '-' then .hiddenDashDash else afterHidden c
  | .hiddenDashDash, c =>
    if c = '-' then .hiddenDashDash else if c = '>' then .plain else afterHidden c
  | .hiddenLess, c => if c = '/' then .endName [] else afterHidden c
  | .endName name, c =>
    if endsTagName c then (if isScript name then .comment else .hidden)
    else if isLetter c then .endName (c.toLower :: name)
    else afterHidden c

/-- Whether the `<` that led to this state can begin an end tag. -/
def seesEndTag (s : ScriptState) : Bool :=
  s == .plainLess || s == .commentLess

end ScriptState

/-- The text of a script up to its end tag, and the rest from there on. The text so far is in
`done`, last character first. -/
def lexScript (name : String) : ScriptState → List Char → List Char → List Char × List Char
  | _, [], done => (done.reverse, [])
  | state, c :: rest, done =>
    let state := state.next c
    if c = '<' && state.seesEndTag && startsEndTag name rest then (done.reverse, c :: rest)
    else lexScript name state rest (visible c :: done)

end Hypertext.Document
