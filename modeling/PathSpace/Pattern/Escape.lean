import PathSpace.Decimal.Integer
import PathSpace.Pattern.Source
import PathSpace.Unicode.Lookup
/-! # What a backslash stands for

Behind a backslash stands a letter for a class of characters (`\d`, `\p`), for a place (`\b`),
for a control character (`\n`), the number of a character (`\x41`), or a mark that loses its
meaning (`\.`).  `Reader.escape` reads all of these.
-/

namespace PathSpace.Pattern

/-- What an escape stands for. -/
inductive Escape where
  | char (c : Char)
  | set (s : CharSet)
  | look (l : Look)

/-- The blanks. -/
def blankChars : CharSet := .ofRanges [
  (0x9, 0xd), (0x20, 0x20), (0x85, 0x85), (0xa0, 0xa0), (0x1680, 0x1680), (0x2000, 0x200a),
  (0x2028, 0x2029), (0x202f, 0x202f), (0x205f, 0x205f), (0x3000, 0x3000)]

/-- The class of a small letter. -/
def Flags.classOf? (f : Flags) : Char → Option CharSet
  | 'd' => some (if f.unicode then Text.digits else .range 48 57)
  | 's' => some (if f.unicode then blankChars else .ofRanges [(9, 13), (32, 32)])
  | 'w' =>
    some (if f.unicode then Text.wordChars else .ofRanges [(48, 57), (65, 90), (95, 95), (97, 122)])
  | _ => none

/-- The character that a letter stands for behind a backslash. -/
def control? : Char → Option Char
  | 'a' => some '\x07'
  | 'f' => some '\x0c'
  | 'n' => some '\n'
  | 'r' => some '\r'
  | 't' => some '\t'
  | 'v' => some '\x0b'
  | _ => none

/-- Whether a backslash may stand before a character that keeps standing for itself. -/
def isEscapable (c : Char) : Bool := c.toNat < 128 && !c.isAlphanum && c != '<' && c != '>'

/-- The edge of a word that a name in braces stands for. -/
def namedEdge? : String → Option WordEdge
  | "start" => some .start
  | "end" => some .finish
  | "start-half" => some .startHalf
  | "end-half" => some .finishHalf
  | _ => none

/-- The character with the number that some hexadecimal digits give; there must be a digit. -/
def numbered? (ds : List Char) : Option Char := do
  if ds.isEmpty then none
  else
    let n ← ds.foldlM (fun n d => (Text.Hex.digit? d).map (n * 16 + ·)) 0
    if n.isValidChar then some (Char.ofNat n) else none

namespace Reader

/-- A character by its number: `width` digits, or any number of them in braces.  Without the
table of characters, two digits give no character beyond ASCII. -/
def hex (width : Nat) : Reader Escape := do
  let f ← flags
  match ← peek with
  | '\x7b' :: rest =>
    let (ds, rest) := f.takeWhile (· != '\x7d') rest.length (f.skip rest)
    match numbered? ds, rest with
    | some c, _ :: rest => goTo rest; return .char c
    | _, _ => refuse
  | rest =>
    let (ds, rest) := f.takeWhile (fun _ => true) width rest
    match numbered? ds with
    | some c =>
      if ds.length = width ∧ (f.unicode ∨ width ≠ 2 ∨ c.toNat < 128) then
        goTo rest
        return .char c
      else refuse
    | none => refuse

/-- A class of characters by a property: one letter, or a query in braces. -/
def property (negated : Bool) : Reader Escape := do
  let f ← flags
  let found : Option ((CharSet × Bool) × List Char) :=
    match ← peek with
    | '\x7b' :: rest =>
      let (text, rest) := f.takeWhile (· != '\x7d') rest.length (f.skip rest)
      rest.tail?.bind fun rest => (Unicode.query? text).map (·, rest)
    | c :: rest =>
      if c = '\\' then none else (Unicode.named? [c]).map fun s => ((s, true), rest)
    | [] => none
  match found with
  | some ((s, asked), rest) =>
    goTo rest
    if f.unicode then return .set (if asked == negated then (f.fold s).compl else f.fold s)
    else refuse
  | none => refuse

/-- The edge of a word, from behind `\b` on: a name in braces may follow.  Braces that begin
with neither a letter nor a hyphen are left for a repetition. -/
def wordEdge : Reader Escape := do
  let f ← flags
  let isNameChar := fun (c : Char) => c.isAlpha || c == '-'
  match (← get).rest with
  | '\x7b' :: rest =>
    let inner := f.skip rest
    match inner with
    | [] => refuse
    | c :: _ =>
      if isNameChar c then
        let (name, rest) := f.takeWhile isNameChar inner.length inner
        match rest, namedEdge? (String.ofList name) with
        | '\x7d' :: rest, some edge => goTo rest; return .look (.word edge !f.unicode)
        | _, _ => refuse
      else return .look (.word .either !f.unicode)
  | _ => return .look (.word .either !f.unicode)

/-- What stands behind a backslash. -/
def escape : Reader Escape := do
  let f ← flags
  match (← get).rest with
  | [] => refuse
  | c :: rest =>
    goTo rest
    match c with
    | 'x' => hex 2
    | 'u' => hex 4
    | 'U' => hex 8
    | 'p' => property false
    | 'P' => property true
    | 'A' => return .look .textStart
    | 'z' => return .look .textEnd
    | 'b' => wordEdge
    | 'B' => return .look (.word .neither !f.unicode)
    | '<' => return .look (.word .start !f.unicode)
    | '>' => return .look (.word .finish !f.unicode)
    | _ =>
      match f.classOf? c.toLower, control? c with
      | some s, _ =>
        match f.members? c.isUpper s with
        | some s => return .set s
        | none => refuse
      | none, some d => return .char d
      | none, none => if isEscapable c then return .char c else refuse

end Reader

end PathSpace.Pattern
