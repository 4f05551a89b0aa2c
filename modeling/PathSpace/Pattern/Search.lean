import PathSpace.Pattern.Program
/-! # Searching

A search goes over the text once.  At every place it knows the threads that have come so far,
the most wanted one first: each has the number of its next instruction and the places that it
remembers.  `Program.follow` takes the threads as far as the next character; no instruction is
run twice at a place, since what comes first is wanted more.  A thread that has found a match
ends those behind it, but not those before it.
-/

namespace PathSpace

/-- Places under numbers, the newest first. -/
abbrev Marks := List (Nat × Nat)

/-- A way in which a match may come about. -/
structure Thread where
  /-- The number of the next instruction. -/
  next : Nat
  marks : Marks := []
  deriving DecidableEq, Repr

/-- A match. -/
structure Found where
  marks : Marks
  /-- The place behind the match. -/
  behind : Cursor
  deriving DecidableEq, Repr

namespace Found

/-- The place with that number. -/
def place? (f : Found) (i : Nat) : Option Nat := (f.marks.find? (·.1 == i)).map (·.2)

/-- The places before and behind the match of a group. -/
def group? (f : Found) (i : Nat) : Option (Nat × Nat) := do
  return (← f.place? (2 * i), ← f.place? (2 * i + 1))

/-- The place before the match. -/
def start (f : Found) : Nat := (f.place? 0).getD f.behind.place

end Found

namespace Program

/-- What the threads at a place come to. -/
structure Front where
  /-- The threads that wait for a character of a set. -/
  waiting : List (CharSet × Thread) := []
  /-- What the thread behind them remembers, if it has found a match. -/
  found : Option Marks := none

/-- Takes threads as far as the next character.  `seen` says which instructions have been run
at this place, and `waiting` has the threads that wait already, the last one first. -/
def follow (p : Program) (c : Cursor) :
    (steps : Nat) → List Thread → (seen : Array Bool) → (waiting : List (CharSet × Thread)) → Front
  | 0, _, _, waiting | _, [], _, waiting => { waiting := waiting.reverse }
  | steps + 1, t :: rest, seen, waiting =>
    -- a thread that was wanted more has come here before
    if seen.getD t.next true then p.follow c steps rest seen waiting
    else
      let seen := seen.setIfInBounds t.next true
      match p.instrs[t.next]? with
      | none => p.follow c steps rest seen waiting
      -- the threads behind are given up, those that wait already are not
      | some .accept => { waiting := waiting.reverse, found := some t.marks }
      | some (.take s next) => p.follow c steps rest seen ((s, { t with next }) :: waiting)
      | some (.look l next) =>
        if l.holds c then p.follow c steps ({ t with next } :: rest) seen waiting
        else p.follow c steps rest seen waiting
      | some (.mark i next) =>
        p.follow c steps (⟨next, (i, c.place) :: t.marks⟩ :: rest) seen waiting
      | some (.fork first second) =>
        p.follow c steps ({ t with next := first } :: { t with next := second } :: rest) seen waiting

/-- What threads come to at a place.  Every instruction adds at most one thread. -/
def front (p : Program) (c : Cursor) (threads : List Thread) : Front :=
  p.follow c (threads.length + 2 * p.instrs.size + 1) threads
    (Array.replicate p.instrs.size false) []

/-- Searches from a place on, at which `threads` have come; `best` is the match so far.  As
long as there is none, one more thread begins at every place. -/
def scan (p : Program) (threads : List Thread) (best : Option Found) (place : Nat)
    (before : Option Char) : (rest : List Char) → Option Found
  | [] => (settled []).2
  | x :: rest =>
    let (waiting, best) := settled (x :: rest)
    if waiting.isEmpty && best.isSome then best
    else
      let threads := waiting.filterMap fun (s, t) => if s.contains x then some t else none
      p.scan threads best (place + 1) (some x) rest
where
  /-- What the threads come to, with the match so far. -/
  settled (rest : List Char) : List (CharSet × Thread) × Option Found :=
    let c : Cursor := { place, before, rest }
    let front := p.front c (if best.isNone then threads ++ [{ next := p.start }] else threads)
    (front.waiting, (front.found.map (⟨·, c⟩)).or best)

/-- The first match behind a place. -/
def search (p : Program) (c : Cursor) : Option Found := p.scan [] none c.place c.before c.rest

end Program

end PathSpace
