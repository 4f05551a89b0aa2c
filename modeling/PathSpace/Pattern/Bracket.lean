import PathSpace.Pattern.Escape
/-! # Classes in brackets

A class such as `[a-z0-9_]` has characters, ranges, escapes, classes by name (`[:alpha:]`) and
further classes as members.  Before operators (`&&`, `--`, `~~`) and behind them stand operands,
which are taken from the left to the right.
-/

namespace PathSpace.Pattern

/-- The classes that are written as `[:name:]`. -/
def namedClasses : List (String × List (Nat × Nat)) := [
  ("alnum", [(0x30, 0x39), (0x41, 0x5a), (0x61, 0x7a)]),
  ("alpha", [(0x41, 0x5a), (0x61, 0x7a)]),
  ("ascii", [(0, 0x7f)]),
  ("blank", [(0x9, 0x9), (0x20, 0x20)]),
  ("cntrl", [(0, 0x1f), (0x7f, 0x7f)]),
  ("digit", [(0x30, 0x39)]),
  ("graph", [(0x21, 0x7e)]),
  ("lower", [(0x61, 0x7a)]),
  ("print", [(0x20, 0x7e)]),
  ("punct", [(0x21, 0x2f), (0x3a, 0x40), (0x5b, 0x60), (0x7b, 0x7e)]),
  ("space", [(0x9, 0xd), (0x20, 0x20)]),
  ("upper", [(0x41, 0x5a)]),
  ("word", [(0x30, 0x39), (0x41, 0x5a), (0x5f, 0x5f), (0x61, 0x7a)]),
  ("xdigit", [(0x30, 0x39), (0x41, 0x46), (0x61, 0x66)])]

/-- A class `[:name:]` or `[:^name:]`, without the bracket in front: whether it is negated, its
characters, and the text behind it. -/
def namedClass? : List Char → Option (Bool × CharSet × List Char)
  | ':' :: s =>
    let (negated, s) :=
      match s with
      | '^' :: s => (true, s)
      | s => (false, s)
    let (name, rest) := s.span (· != ':')
    match rest, namedClasses.find? (·.1 == String.ofList name) with
    | ':' :: ']' :: rest, some (_, ranges) => some (negated, ⟨ranges⟩, rest)
    | _, _ => none
  | _ => none

/-- How two sets are joined. -/
inductive SetOp where
  | inter
  | diff
  | symmDiff

/-- The set that two sets are joined to. -/
def SetOp.apply : SetOp → CharSet → CharSet → CharSet
  | .inter => CharSet.inter
  | .diff => CharSet.diff
  | .symmDiff => CharSet.symmDiff

/-- A class as it lies in the text. -/
structure Bracket where
  set : CharSet := .empty
  /-- How many parts lie within each other. -/
  depth : Nat := 0

/-- An operand as far as it has been read. -/
structure Operand extends Bracket where
  /-- The number of members. -/
  size : Nat := 0

namespace Operand

/-- Adds a member. -/
def add (o : Operand) (b : Bracket) : Operand :=
  { set := o.set.union b.set, depth := max o.depth b.depth, size := o.size + 1 }

/-- All of an operand; several members lie within it. -/
def complete (o : Operand) : Bracket := ⟨o.set, if 1 < o.size then o.depth + 1 else o.depth⟩

/-- Joins the operand to what stands before the operator in front of it. -/
def joinedTo (f : Flags) (before : Option (Bracket × SetOp)) (o : Operand) : Bracket :=
  match before with
  | none => o.complete
  | some (b, op) =>
    ⟨op.apply (f.fold b.set) (f.fold o.complete.set), max b.depth o.complete.depth + 1⟩

end Operand

/-- The character behind a hyphen, on which it hangs whether the hyphen stands for a range.
Where blanks are ignored, only the mark that begins a comment is skipped. -/
def Flags.afterHyphen? (f : Flags) (s : List Char) : Option Char :=
  if f.blanksIgnored then
    match s.dropWhile Text.isBlank with
    | '#' :: rest => (rest.dropWhile Text.isBlank).head?
    | s => s.head?
  else s.head?

namespace Reader

/-- What must be there. -/
def required : Option α → Reader α
  | some a => return a
  | none => refuse

/-- A character or an escape. -/
def member : Reader Escape := do
  match (← get).rest with
  | '\\' :: rest => goTo rest; escape
  | c :: rest => goTo rest; return .char c
  | [] => refuse

/-- The set that a character or an escape stands for within a class. -/
def memberSet : Escape → Reader CharSet
  | .char c => do required ((← flags).single? c)
  | .set s => return s
  | .look _ => refuse

/-- A member with the range that it may begin. -/
def memberOrRange : Reader CharSet := do
  let f ← flags
  let lo ← member
  match ← peek with
  | [] => refuse
  | '-' :: rest =>
    -- here the hyphen stands for itself at the end, or begins an operator
    if [some ']', some '-'].contains (f.afterHyphen? rest) then memberSet lo
    else
      goTo (f.skip rest)
      match lo, ← member with
      | .char a, .char b =>
        let _ ← required (f.single? a)
        let _ ← required (f.single? b)
        if a ≤ b then return .range a.toNat b.toNat else refuse
      | _, _ => refuse
  | _ => memberSet lo

/-- The hyphens, or else the closing bracket, that stand for themselves at the start. -/
def leading : Reader Operand := do
  let f ← flags
  let s ← peek
  let (hyphens, rest) := f.takeWhile (· == '-') s.length s
  goTo rest
  match hyphens, rest with
  | [], ']' :: rest => goTo rest; return Operand.add {} ⟨.single ']', 0⟩
  | [], _ => return {}
  | _, _ => return { set := .single '-', size := hyphens.length }

/-- The members up to the closing bracket.  `nested` reads a class from behind its opening
bracket on, and `before` is what stands before the last operator. -/
def members (nested : Reader Bracket) :
    (steps : Nat) → (before : Option (Bracket × SetOp)) → Operand → Reader Bracket
  | 0, _, _ => refuse
  | steps + 1, before, o => do
    let f ← flags
    let joined := fun (op : SetOp) => some (o.joinedTo f before, op)
    match ← peek with
    | ']' :: rest => goTo rest; return o.joinedTo f before
    | '&' :: '&' :: rest => goTo rest; members nested steps (joined .inter) {}
    | '-' :: '-' :: rest => goTo rest; members nested steps (joined .diff) {}
    | '~' :: '~' :: rest => goTo rest; members nested steps (joined .symmDiff) {}
    | '[' :: rest =>
      match namedClass? rest with
      | some (negated, s, rest) =>
        goTo rest
        let s ← required (f.members? negated (f.fold s))
        members nested steps before (o.add ⟨s, 0⟩)
      | none =>
        goTo rest
        let b ← nested
        members nested steps before (o.add b)
    | _ =>
      let s ← memberOrRange
      members nested steps before (o.add ⟨s, 0⟩)

/-- A class from behind its opening bracket on; at most `room` further classes lie within each
other in it. -/
def bracket : (room : Nat) → Reader Bracket
  | 0 => refuse
  | room + 1 => do
    let f ← flags
    let negated ←
      match ← peek with
      | '^' :: rest => goTo rest; pure true
      | _ => pure false
    let first ← leading
    let b ← members (bracket room) ((← get).rest.length + 1) none first
    let s ← required (f.members? negated (f.fold b.set))
    return ⟨s, b.depth + 1⟩

end Reader

end PathSpace.Pattern
