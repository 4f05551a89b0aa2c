import PathSpace.Pattern.Basic
/-! # Programs that search

A `Program` is a list of instructions that are known by their numbers.  Each names those that
may come next; a fork names two, of which the first one is tried first.

`Program.ofRegex` writes the program of an expression from the back to the front, since an
instruction has to name what comes behind it.
-/

namespace PathSpace

/-- A step of a search. -/
inductive Instr where
  /-- A match has been found. -/
  | accept
  /-- Goes over one character of a set. -/
  | take (s : CharSet) (next : Nat)
  /-- Goes on if the place is as demanded. -/
  | look (l : Look) (next : Nat)
  /-- Remembers the place under a number. -/
  | mark (i next : Nat)
  | fork (first second : Nat)
  deriving DecidableEq, Repr

/-- Instructions, and the one at which a search begins. -/
structure Program where
  instrs : Array Instr
  start : Nat
  deriving DecidableEq, Repr

namespace Program

/-- Instructions to which others may be added. -/
abbrev Code := Array Instr

/-- Adds an instruction, and gives its number. -/
def add (code : Code) (i : Instr) : Code × Nat :=
  let number := code.size
  (code.push i, number)

/-- Adds a fork that enters a part or leaves it. -/
def addFork (greedy : Bool) (enter leave : Nat) (code : Code) : Code × Nat :=
  add code (if greedy then .fork enter leave else .fork leave enter)

/-- Adds a part several times, one behind the other. -/
def addCopies (part : Nat → Code → Code × Nat) : (n : Nat) → (next : Nat) → Code → Code × Nat
  | 0, next, code => (code, next)
  | n + 1, next, code =>
    let (code, next) := part next code
    addCopies part n next code

/-- Adds a part up to `n` times; behind each of them the rest may be left out. -/
def addOptional (greedy : Bool) (part : Nat → Code → Code × Nat) (leave : Nat) :
    (n : Nat) → (next : Nat) → Code → Code × Nat
  | 0, next, code => (code, next)
  | n + 1, next, code =>
    let (code, enter) := part next code
    let (code, next) := addFork greedy enter leave code
    addOptional greedy part leave n next code

/-- Adds a part that may be repeated without end.  Gives the number of the part, and that of the
fork behind it. -/
def addLoop (greedy : Bool) (part : Nat → Code → Code × Nat) (leave : Nat) (code : Code) :
    Code × Nat × Nat :=
  -- the part has to name the fork and the fork the part, so the fork is completed afterwards
  let (code, again) := addFork greedy leave leave code
  let (code, enter) := part again code
  let fork := if greedy then Instr.fork enter leave else .fork leave enter
  (code.setIfInBounds again fork, enter, again)

/-- Adds the instructions of an expression, behind which that with number `next` comes.  Gives
the number of the first one. -/
def addRegex : Regex → (next : Nat) → Code → Code × Nat
  | .empty, next, code => (code, next)
  | .set s, next, code => add code (.take s next)
  | .look l, next, code => add code (.look l next)
  | .cat a b, next, code =>
    let (code, next) := addRegex b next code
    addRegex a next code
  | .alt a b, next, code =>
    let (code, second) := addRegex b next code
    let (code, first) := addRegex a next code
    add code (.fork first second)
  | .group i a, next, code =>
    let (code, next) := add code (.mark (2 * i + 1) next)
    let (code, next) := addRegex a next code
    add code (.mark (2 * i) next)
  | .repeated a min (some max) greedy, next, code =>
    let (code, next) := addOptional greedy (addRegex a) next (max - min) next code
    addCopies (addRegex a) min next code
  | .repeated a min none greedy, leave, code =>
    let (code, enter, again) := addLoop greedy (addRegex a) leave code
    match min with
    -- a part that may match nothing is entered by a fork of its own: the one behind it would
    -- count as run already when the part has consumed nothing
    | 0 => if a.consumes then (code, again) else addFork greedy enter leave code
    | min + 1 => addCopies (addRegex a) min enter code

/-- The program that searches for an expression, of which the whole match is group 0. -/
def ofRegex (r : Regex) : Program :=
  let (instrs, start) := addRegex (.group 0 r) 0 #[.accept]
  ⟨instrs, start⟩

end Program

end PathSpace
