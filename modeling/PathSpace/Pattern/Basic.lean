import PathSpace.Text.Classes
/-! # Regular expressions

A `Regex` is built from sets of characters and from demands on places in a text (`Look`) by
putting parts one behind the other, by choice and by repetition.  Parts whose matches are
remembered are groups, and have numbers.

Of several matches that begin at one place, the one counts that comes first when every choice
is tried in the order in which it is written: the left alternative before the right one, and
as many repetitions as possible, or as few for one that is not greedy.
-/

namespace PathSpace

/-- A place in a text. -/
structure Cursor where
  /-- The number of characters before the place. -/
  place : Nat := 0
  /-- The character before the place. -/
  before : Option Char := none
  /-- The text behind the place. -/
  rest : List Char
  deriving DecidableEq, Repr

namespace Cursor

/-- The place behind the next character `x`, of which `rest` is what follows. -/
def behind (c : Cursor) (x : Char) (rest : List Char) : Cursor :=
  { place := c.place + 1, before := some x, rest }

end Cursor

/-- How a place lies to the words around it. -/
inductive WordEdge where
  /-- A word begins or ends. -/
  | either
  /-- No word begins or ends. -/
  | neither
  | start
  | finish
  /-- No word is before the place. -/
  | startHalf
  /-- No word is behind the place. -/
  | finishHalf
  deriving DecidableEq, Repr

/-- What a place in a text is to be.  Only `\n` ends a line, or with `crlf` also `\r` and the
two together. -/
inductive Look where
  | textStart
  | textEnd
  | lineStart (crlf : Bool)
  | lineEnd (crlf : Bool)
  /-- A word is made of word characters, or with `ascii` only of those of ASCII. -/
  | word (edge : WordEdge) (ascii : Bool)
  deriving DecidableEq, Repr

/-- Whether a place has the edge, if there are words before and behind it or not. -/
def WordEdge.holds (before behind : Bool) : WordEdge → Bool
  | .either => before != behind
  | .neither => before == behind
  | .start => !before && behind
  | .finish => before && !behind
  | .startHalf => !before
  | .finishHalf => !behind

/-- Whether a place is as it is to be. -/
def Look.holds (l : Look) (c : Cursor) : Bool :=
  let next := c.rest.head?
  match l with
  | .textStart => c.before.isNone
  | .textEnd => next.isNone
  | .lineStart crlf =>
    c.before.all (· == '\n') || (crlf && c.before == some '\r' && next != some '\n')
  | .lineEnd crlf =>
    if crlf then
      next.isNone || next == some '\r' || (next == some '\n' && c.before != some '\r')
    else next.all (· == '\n')
  | .word edge ascii =>
    let isWord := if ascii then Text.isAsciiWordChar else Text.isWordChar
    edge.holds (c.before.any isWord) (next.any isWord)

/-- A regular expression. -/
inductive Regex where
  | empty
  /-- One character of a set. -/
  | set (s : CharSet)
  | look (l : Look)
  | cat (a b : Regex)
  | alt (a b : Regex)
  /-- At least `min` times, and at most `max` times if that is given. -/
  | repeated (a : Regex) (min : Nat) (max : Option Nat) (greedy : Bool)
  /-- A part whose match is remembered under a number. -/
  | group (i : Nat) (a : Regex)
  deriving DecidableEq, Repr

namespace Regex

/-- Whether every match has a character. -/
def consumes : Regex → Bool
  | .empty | .look _ => false
  | .set _ => true
  | .cat a b => b.consumes || a.consumes
  | .alt a b => b.consumes && a.consumes
  | .repeated a min _ _ => 0 < min && a.consumes
  | .group _ a => a.consumes

/-- Whether no match can have a character. -/
def staysPut : Regex → Bool
  | .empty | .look _ => true
  | .set _ => false
  | .cat a b | .alt a b => b.staysPut && a.staysPut
  | .repeated a _ _ _ | .group _ a => a.staysPut

/-- One expression behind another. -/
def followedBy (a b : Regex) : Regex :=
  if a = .empty then b else if b = .empty then a else .cat a b

/-- The choice between alternatives, the first one first.  That between single characters is a
set of its own. -/
def choice (rs : List Regex) : Regex :=
  let sets := rs.filterMap fun | .set s => some s | _ => none
  match rs with
  | [] => .set .empty
  | r :: rest => if sets.length = rs.length then .set (.unions sets) else rest.foldl .alt r

/-- A repetition.  What cannot have a character is not repeated more than once. -/
def times (r : Regex) (min : Nat) (max : Option Nat) (greedy : Bool) : Regex :=
  let least := if r.staysPut then Nat.min min 1 else min
  let most := if r.staysPut then some (Nat.min (max.getD 1) 1) else max
  if least = 0 ∧ most = some 0 then .empty
  else if least = 1 ∧ most = some 1 then r
  else .repeated r least most greedy

/-- Whether the expression asks for edges of words that are not made of ASCII alone. -/
def asksForWords : Regex → Bool
  | .look (.word _ ascii) => !ascii
  | .empty | .set _ | .look _ => false
  | .cat a b | .alt a b => b.asksForWords || a.asksForWords
  | .repeated a _ _ _ | .group _ a => a.asksForWords

end Regex

end PathSpace
