import PathSpace.Pattern.Basic
import PathSpace.Text.Blank
import PathSpace.Unicode.CaseFolding
/-! # The text of an expression while it is read

Flags say how the text from some place on is meant: whether case counts, what a dot and the
marks for lines stand for, whether blanks count, and whether characters beyond ASCII are told
apart by what they are.  A `Reader` reads a part of the text; it refuses what makes no sense.
-/

namespace PathSpace.Pattern

/-- How the text from here on is meant. -/
structure Flags where
  ignoreCase : Bool := false
  multiLine : Bool := false
  dotAll : Bool := false
  swapGreed : Bool := false
  unicode : Bool := true
  crlf : Bool := false
  blanksIgnored : Bool := false
  deriving DecidableEq, Repr

namespace Flags

/-- Sets the flag of a letter. -/
def set? (f : Flags) (on : Bool) : Char → Option Flags
  | 'i' => some { f with ignoreCase := on }
  | 'm' => some { f with multiLine := on }
  | 's' => some { f with dotAll := on }
  | 'U' => some { f with swapGreed := on }
  | 'u' => some { f with unicode := on }
  | 'R' => some { f with crlf := on }
  | 'x' => some { f with blanksIgnored := on }
  | _ => none

/-- The capital and the small letters of ASCII of which one is in a set. -/
def letterPairs (s : CharSet) : CharSet :=
  .ofRanges ((List.range 26).flatMap fun k =>
    if s.hasNumber (65 + k) || s.hasNumber (97 + k) then [(65 + k, 65 + k), (97 + k, 97 + k)]
    else [])

/-- Adds what is alike but for its case, if that does not count. -/
def fold (f : Flags) (s : CharSet) : CharSet :=
  if !f.ignoreCase then s else if f.unicode then s.foldCase else s.union (letterPairs s)

/-- A set of which the members are meant, or all other characters.  Without the table of
characters no set may reach beyond ASCII. -/
def members? (f : Flags) (negated : Bool) (s : CharSet) : Option CharSet :=
  let s := if negated then s.compl else s
  if f.unicode || s.isAscii then some s else none

/-- The set of a character that stands for itself in a class. -/
def single? (f : Flags) (c : Char) : Option CharSet := f.members? false (.single c)

/-- A character that stands for itself. -/
def literal (f : Flags) (c : Char) : Regex := .set (f.fold (.single c))

end Flags

/-- What is left to be read, and what has been found so far. -/
structure ReaderState where
  rest : List Char
  flags : Flags := {}
  /-- The number of groups so far. -/
  groups : Nat := 0
  names : List (String × Nat) := []

/-- Reads a part of an expression. -/
abbrev Reader (α : Type) := StateT ReaderState Option α

/-- How many parts may lie within each other. -/
def maxDepth : Nat := 250

/-- A text without the blanks and comments at its start.  `inComment` says that a comment has
begun before it, which ends with the line. -/
def skipIgnored (inComment : Bool) : List Char → List Char
  | [] => []
  | c :: rest =>
    if inComment then skipIgnored (c != '\n') rest
    else if Text.isBlank c then skipIgnored false rest
    else if c = '#' then skipIgnored true rest
    else c :: rest

/-- A text without what is to be ignored at its start. -/
def Flags.skip (f : Flags) (s : List Char) : List Char :=
  if f.blanksIgnored then skipIgnored false s else s

/-- The characters at the start of a text that meet a condition, and the text behind them.
What is ignored may stand behind each of them. -/
def Flags.takeWhile (f : Flags) (p : Char → Bool) :
    (steps : Nat) → List Char → List Char × List Char
  | 0, s => ([], s)
  | _ + 1, [] => ([], [])
  | steps + 1, c :: rest =>
    if p c then
      let (cs, rest) := f.takeWhile p steps (f.skip rest)
      (c :: cs, rest)
    else ([], c :: rest)

namespace Reader

/-- Refuses the text. -/
def refuse : Reader α := fun _ => none

/-- Goes on with another rest. -/
def goTo (rest : List Char) : Reader Unit := modify ({ · with rest })

/-- The flags that hold here. -/
def flags : Reader Flags := return (← get).flags

/-- The text that is left, without what is ignored. -/
def peek : Reader (List Char) := do
  let st ← get
  let rest := st.flags.skip st.rest
  set { st with rest }
  return rest

end Reader

end PathSpace.Pattern
