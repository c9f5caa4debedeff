/-!
# Patterns

A pattern is a sequence of pieces. A piece is a class of characters and says how many of them
it takes: one, at most one, any number, or at least one. A piece takes as many characters as it
can, and gives some back only if the rest of the pattern would not fit otherwise; of several
fits the one found first in this way counts. Looked for in a text, a pattern fits at the first
place where it fits at all.

What a pattern captures is the part of the text that its last piece takes.
-/

namespace Hypertext

/-- How many characters a piece takes. -/
inductive Count where
  | one | optional | any | some
  deriving DecidableEq, Repr

/-- A part of a pattern. -/
structure Piece where
  count : Count
  accepts : Char → Bool

/-- A sequence of pieces. -/
abbrev Pattern := List Piece

namespace Pattern

/-- Lets a class take characters as long as it accepts them, and goes on with `next` after the
last place where that fits. -/
def greedy {α : Type} (accepts : Char → Bool) (next : List Char → Option α) :
    List Char → Option α
  | [] => next []
  | c :: rest =>
    if accepts c then
      match greedy accepts next rest with
      | some a => some a
      | none => next (c :: rest)
    else next (c :: rest)

/-- Fits a pattern to the beginning of a text: what is left of the text before the last piece
and after it. -/
def split? : Pattern → List Char → Option (List Char × List Char)
  | [], s => some (s, s)
  | piece :: pieces, s =>
    let next := fun after : List Char =>
      if pieces.isEmpty then some (s, after) else split? pieces after
    let taking := fun (more : List Char → Option (List Char × List Char)) =>
      match s with
      | [] => none
      | c :: rest => if piece.accepts c then more rest else none
    match piece.count with
    | .one => taking next
    | .optional =>
      match taking next with
      | some r => some r
      | none => next s
    | .any => greedy piece.accepts next s
    | .some => taking (greedy piece.accepts next)

/-- Fits a pattern to the beginning of a text, and gives what its last piece takes. -/
def fit? (p : Pattern) (s : List Char) : Option (List Char) :=
  (p.split? s).map fun (before, after) => before.take (before.length - after.length)

/-- Fits a pattern at the first place of a text where it fits, and gives what its last piece
takes there. -/
def search? (p : Pattern) : List Char → Option (List Char)
  | [] => p.fit? []
  | c :: rest =>
    match p.fit? (c :: rest) with
    | some captured => some captured
    | none => search? p rest

end Pattern

end Hypertext
