import PathSpace.Pattern.Bracket
/-! # Reading regular expressions

`Pattern.parse?` reads a regular expression from its usual notation: alternatives, groups
with and without names, repetitions, classes of characters with their set operations, and
flags.  A text that is no regular expression is refused, and so is one with more than
`maxDepth` parts that lie within each other.
-/

namespace PathSpace

/-- A regular expression with the names of its groups. -/
structure Pattern where
  regex : Regex
  names : List (String × Nat) := []
  deriving DecidableEq, Repr

namespace Pattern

/-- An expression as it lies in the text. -/
structure Piece where
  regex : Regex := .empty
  /-- How many parts lie within each other. -/
  depth : Nat := 0

/-- An alternative as far as it has been read. -/
structure Sequence where
  /-- The number of parts. -/
  size : Nat := 0
  /-- All parts but the last one. -/
  before : Piece := {}
  /-- The last part, if it can be repeated. -/
  last : Option Piece := none

namespace Sequence

/-- All parts one behind the other. -/
def joined (s : Sequence) : Piece :=
  match s.last with
  | none => s.before
  | some p => ⟨s.before.regex.followedBy p.regex, max s.before.depth p.depth⟩

/-- The whole alternative; several parts lie within it. -/
def complete (s : Sequence) : Piece :=
  ⟨s.joined.regex, if 1 < s.size then s.joined.depth + 1 else s.joined.depth⟩

/-- Adds a part. -/
def add (s : Sequence) (p : Piece) : Sequence := ⟨s.size + 1, s.joined, some p⟩

/-- Adds a change of flags, which cannot be repeated. -/
def addFlags (s : Sequence) : Sequence := ⟨s.size + 1, s.joined, none⟩

end Sequence

/-- Several alternatives, the last one first; they lie within the choice between them. -/
def Piece.choice : List Piece → Piece
  | [p] => p
  | ps => ⟨.choice (ps.reverse.map (·.regex)), ps.foldl (fun d p => max d p.depth) 0 + 1⟩

/-- Reads flags, as far as the colon or parenthesis behind them.  `seen` has the characters
before, the last one first; a flag may stand there once, and a minus turns those behind it off.
Gives the flags, whether there were any, the mark that ends them, and the text behind it. -/
def Flags.read? (seen : List Char) (f : Flags) :
    List Char → Option (Flags × Bool × Char × List Char)
  | [] => none
  | c :: rest =>
    if c = ':' ∨ c = ')' then
      if seen.head? = some '-' then none else some (f, !seen.isEmpty, c, rest)
    else if seen.contains c then none
    else if c = '-' then f.read? (c :: seen) rest
    else (f.set? (!seen.contains '-') c).bind fun f => f.read? (c :: seen) rest

/-- A number in a repetition.  Blanks may stand around it. -/
def Flags.count? (f : Flags) (s : List Char) : Option (Nat × List Char) := do
  let (ds, rest) := f.takeWhile Decimal.isDigit s.length (s.dropWhile Text.isBlank)
  let n ← Decimal.readNat? ds
  if n < UInt32.size then some (n, f.skip (rest.dropWhile Text.isBlank)) else none

/-- The bounds of a repetition, from behind the brace on. -/
def Flags.bounds? (f : Flags) (s : List Char) : Option (Nat × Option Nat × List Char) := do
  let (n, rest) ← f.count? (f.skip s)
  match rest with
  | '\x7d' :: rest => some (n, some n, rest)
  | ',' :: rest =>
    match f.skip rest with
    | '\x7d' :: rest => some (n, none, rest)
    | rest => do
      let (m, rest) ← f.count? rest
      match rest with
      | '\x7d' :: rest => if n ≤ m then some (n, some m, rest) else none
      | _ => none
  | _ => none

/-- Whether a character may stand in the name of a group, or begin it. -/
def isNameChar (first : Bool) (c : Char) : Bool :=
  if first then c == '_' || Text.isAlphabetic c
  else ['_', '.', '[', ']'].contains c || Text.isAlphanumeric c

/-- Whether the inside of parentheses looks around without matching anything. -/
def looksAround (s : List Char) : Bool :=
  ["?=", "?!", "?<=", "?<!"].any fun mark => mark.toList.isPrefixOf s

namespace Reader

/-- Repeats the last part.  `mark` is the text from behind the mark on, and a question mark
there makes the repetition take as little as it can. -/
def repeatLast (s : Sequence) (min : Nat) (max : Option Nat) (mark : List Char) :
    Reader Sequence := do
  match s.last with
  | none => refuse
  | some p =>
    let (lazy, rest) :=
      match mark with
      | '?' :: rest => (true, rest)
      | rest => (false, rest)
    goTo rest
    let f ← flags
    -- a question mark and the flag each turn the wish around, so both together leave it
    return { s with last := some ⟨p.regex.times min max (lazy == f.swapGreed), p.depth + 1⟩ }

/-- A part that is neither a group nor a class. -/
def primitive : Reader Regex := do
  let f ← flags
  match (← get).rest with
  | '\\' :: rest =>
    goTo rest
    match ← escape with
    | .char c => return f.literal c
    | .set s => return .set s
    | .look l => return .look l
  | '.' :: rest =>
    goTo rest
    let ends : CharSet :=
      if f.dotAll then .empty
      else if f.crlf then .ofRanges [(10, 10), (13, 13)]
      else .single '\n'
    -- otherwise the dot would stand for single bytes, which form no text
    if f.unicode then return .set ends.compl else refuse
  | '^' :: rest =>
    goTo rest
    return .look (if f.multiLine then .lineStart f.crlf else .textStart)
  | '$' :: rest =>
    goTo rest
    return .look (if f.multiLine then .lineEnd f.crlf else .textEnd)
  | c :: rest => goTo rest; return f.literal c
  | [] => refuse

/-- The name of a group, up to the closing angle bracket. -/
def groupName (s : List Char) : Reader String := do
  let (name, rest) := s.span (· != '>')
  match name, rest with
  | c :: cs, _ :: rest =>
    let text := String.ofList name
    if isNameChar true c && cs.all (isNameChar false) && !(← get).names.any (·.1 == text) then
      goTo rest
      return text
    else refuse
  | _, _ => refuse

/-- Takes the number of a new group. -/
def newGroup : Reader Nat := do
  let i := (← get).groups + 1
  modify ({ · with groups := i })
  return i

/-- The inside of a group with the parenthesis behind it; the flags from outside hold again. -/
def closed (outside : Flags) (nested : Reader Piece) : Reader Piece := do
  let p ← nested
  match ← peek with
  | ')' :: rest =>
    goTo rest
    modify ({ · with flags := outside })
    return { p with depth := p.depth + 1 }
  | _ => refuse

/-- A group that is remembered. -/
def remembered (nested : Reader Piece) : Reader Piece := do
  let i ← newGroup
  let p ← closed (← flags) nested
  return { p with regex := .group i p.regex }

/-- A group, from behind its opening parenthesis on, or flags for what follows. -/
def group (nested : Reader Piece) (s : Sequence) : Reader Sequence := do
  let f ← flags
  let text ← peek
  let named := fun (rest : List Char) => do
    let name ← groupName rest
    -- the number that `remembered` will take
    modify fun st => { st with names := (name, st.groups + 1) :: st.names }
    return s.add (← remembered nested)
  if looksAround text then refuse
  else
    match text with
    | '?' :: 'P' :: '<' :: rest => named rest
    | '?' :: '<' :: rest => named rest
    | '?' :: rest =>
      match f.read? [] rest with
      | none => refuse
      | some (inner, any, mark, rest) =>
        goTo rest
        modify ({ · with flags := inner })
        if mark = ':' then return s.add (← closed f nested)
        else if any then return s.addFlags
        else refuse
    | _ => return s.add (← remembered nested)

/-- Alternatives, up to a closing parenthesis or the end.  `nested` reads the inside of a
group; `before` has the alternatives so far, the last one first. -/
def alternatives (nested : Reader Piece) :
    (steps : Nat) → (before : List Piece) → Sequence → Reader Piece
  | 0, _, _ => refuse
  | steps + 1, before, s => do
    let f ← flags
    match ← peek with
    | [] | ')' :: _ => return .choice (s.complete :: before)
    | '|' :: rest => goTo rest; alternatives nested steps (s.complete :: before) {}
    | '(' :: rest =>
      goTo rest
      let s ← group nested s
      alternatives nested steps before s
    | '[' :: rest =>
      goTo rest
      let b ← bracket maxDepth
      alternatives nested steps before (s.add ⟨.set b.set, b.depth⟩)
    | '*' :: rest =>
      let s ← repeatLast s 0 none rest
      alternatives nested steps before s
    | '+' :: rest =>
      let s ← repeatLast s 1 none rest
      alternatives nested steps before s
    | '?' :: rest =>
      let s ← repeatLast s 0 (some 1) rest
      alternatives nested steps before s
    | '\x7b' :: rest =>
      let (min, max, rest) ← required (f.bounds? rest)
      let s ← repeatLast s min max (f.skip rest)
      alternatives nested steps before s
    | _ =>
      let r ← primitive
      alternatives nested steps before (s.add ⟨r, 0⟩)

/-- An expression in which at most `room` groups lie within each other. -/
def expression : (room : Nat) → Reader Piece
  | 0 => refuse
  | room + 1 => do alternatives (expression room) ((← get).rest.length + 1) [] {}

end Reader

/-- Reads a regular expression. -/
def parse? (text : String) : Option Pattern := do
  let (p, st) ← (Reader.expression (maxDepth + 1)).run { rest := text.toList }
  if st.rest.isEmpty ∧ p.depth ≤ maxDepth then some ⟨p.regex, st.names⟩ else none

end Pattern

end PathSpace
