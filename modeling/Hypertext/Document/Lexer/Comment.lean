import Hypertext.Document.Lexer.Basic

/-!
# Reading comments

A comment goes on to `-->` or `--!>`; right at its beginning `>` and `->` end it too. Markup
that is no comment but cannot be anything else is kept as one, up to the next `>`.
-/

namespace Hypertext.Document

/-- How far the end of a comment has been read. -/
inductive CommentState where
  | start | startDash | inside | dash | dashDash | dashDashBang
  deriving DecidableEq, Repr

/-- The text of a comment after its `<!--`, and what comes after the comment. The text so far
is in `done`, last character first. -/
def lexComment : CommentState → List Char → List Char → List Char × List Char
  | _, [], done => (done.reverse, [])
  | state, c :: rest, done =>
    match state, c with
    | .start, '-' => lexComment .startDash rest done
    | .start, '>' => (done.reverse, rest)
    | .start, c => lexComment .inside rest (visible c :: done)
    | .startDash, '-' => lexComment .dashDash rest done
    | .startDash, '>' => (done.reverse, rest)
    | .startDash, c => lexComment .inside rest (visible c :: '-' :: done)
    | .inside, '-' => lexComment .dash rest done
    | .inside, c => lexComment .inside rest (visible c :: done)
    | .dash, '-' => lexComment .dashDash rest done
    | .dash, c => lexComment .inside rest (visible c :: '-' :: done)
    | .dashDash, '>' => (done.reverse, rest)
    | .dashDash, '!' => lexComment .dashDashBang rest done
    | .dashDash, '-' => lexComment .dashDash rest ('-' :: done)
    | .dashDash, c => lexComment .inside rest (visible c :: '-' :: '-' :: done)
    | .dashDashBang, '>' => (done.reverse, rest)
    | .dashDashBang, '-' => lexComment .dash rest ('!' :: '-' :: '-' :: done)
    | .dashDashBang, c => lexComment .inside rest (visible c :: '!' :: '-' :: '-' :: done)

/-- The text up to the next `>`, which is kept as a comment, and what comes after. -/
def lexBogusComment (s : List Char) : List Char × List Char :=
  ((s.takeWhile (· != '>')).map visible, (s.dropWhile (· != '>')).drop 1)

end Hypertext.Document
