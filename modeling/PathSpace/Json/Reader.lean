import PathSpace.Json.Shape
import PathSpace.Json.Skip
/-! # Reading JSON text

`Json.parse` reads one document and nothing after it but blanks.  A refused text gives the
reason and the place: the line, and the column counted in bytes.  `Json.parseAs` passes over
all members that a shape does not name.
-/

namespace PathSpace.Json

/-- The depth at which reading gives up. -/
def depthLimit : Nat := 128

mutual

/-- One value, with `depth` levels of brackets left.  Every call takes a character, so the
length of the text is fuel enough. -/
def takeValue (fuel depth : Nat) (shape : Shape) (text : List Char) : Except Stop (Taken Json) :=
  match fuel with
  | 0 => stopAt .expectedValue text
  | fuel + 1 =>
    match skipBlanks text with
    | [] => stopAt .eofInValue []
    | c :: rest =>
      match c with
      | 'n' => takeWord ['u', 'l', 'l'] .null rest
      | 't' => takeWord ['r', 'u', 'e'] (.bool true) rest
      | 'f' => takeWord ['a', 'l', 's', 'e'] (.bool false) rest
      | '-' => do
        let (n, rest) ← takeNumber true rest
        return (.number n, rest)
      | '"' => do
        let (s, rest) ← takeString rest
        return (.string s, rest)
      | '[' =>
        -- the bracket takes a level, and the last one is never given away
        if depth ≤ 1 then stopAt .tooDeep (c :: rest) else do
        let (items, rest) ← takeItems fuel (depth - 1) shape 0 rest
        return (.array items, rest)
      | '\x7b' =>
        if depth ≤ 1 then stopAt .tooDeep (c :: rest) else do
        let (members, rest) ← takeMembers fuel (depth - 1) shape true rest
        return (.object members, rest)
      | c =>
        if Decimal.isDigit c then do
          let (n, rest) ← takeNumber false (c :: rest)
          return (.number n, rest)
        else stopAt .expectedValue (c :: rest)

/-- The items of an array up to its closing bracket, from item number `i` on. -/
def takeItems (fuel depth : Nat) (shape : Shape) (i : Nat) (text : List Char) :
    Except Stop (Taken (List Json)) :=
  match fuel with
  | 0 => stopAt .expectedValue text
  | fuel + 1 =>
    match skipBlanks text with
    | [] => stopAt .eofInList []
    | ']' :: rest => .ok ([], rest)
    | c :: rest =>
      if i = 0 then do
        let (item, rest) ← takeValue fuel depth (shape.item 0) (c :: rest)
        let (items, rest) ← takeItems fuel depth shape 1 rest
        return (item :: items, rest)
      else if c = ',' then
        match skipBlanks rest with
        | [] => stopAt .eofInValue []
        | ']' :: rest => stopAt .trailingComma (']' :: rest)
        | rest => do
          let (item, rest) ← takeValue fuel depth (shape.item i) rest
          let (items, rest) ← takeItems fuel depth shape (i + 1) rest
          return (item :: items, rest)
      else stopAt .expectedListEnd (c :: rest)

/-- The members of an object up to its closing brace, without those that are passed over. -/
def takeMembers (fuel depth : Nat) (shape : Shape) (first : Bool) (text : List Char) :
    Except Stop (Taken (List (String × Json))) :=
  match fuel with
  | 0 => stopAt .expectedValue text
  | fuel + 1 =>
    match skipBlanks text with
    | [] => stopAt .eofInObject []
    | '\x7d' :: rest => .ok ([], rest)
    | c :: rest =>
      if first then
        if c = '"' then do
          let (m, rest) ← takeMember fuel depth shape rest
          let (ms, rest) ← takeMembers fuel depth shape false rest
          return (m.toList ++ ms, rest)
        else stopAt .keyNotString (c :: rest)
      else if c = ',' then
        match skipBlanks rest with
        | [] => stopAt .eofInValue []
        | '"' :: rest => do
          let (m, rest) ← takeMember fuel depth shape rest
          let (ms, rest) ← takeMembers fuel depth shape false rest
          return (m.toList ++ ms, rest)
        | '\x7d' :: rest => stopAt .trailingComma ('\x7d' :: rest)
        | rest => stopAt .keyNotString rest
      else stopAt .expectedObjectEnd (c :: rest)

/-- One member behind the opening quote of its name, unless it is passed over. -/
def takeMember (fuel depth : Nat) (shape : Shape) (text : List Char) :
    Except Stop (Taken (Option (String × Json))) :=
  match fuel with
  | 0 => stopAt .expectedValue text
  | fuel + 1 => do
    let (name, rest) ← takeString text
    match skipBlanks rest with
    | [] => stopAt .eofInObject []
    | ':' :: rest =>
      match shape.member? name with
      | some shape =>
        let (value, rest) ← takeValue fuel depth shape rest
        return (some (name, value), rest)
      | none =>
        let rest ← skipValue rest
        return (none, rest)
    | rest => stopAt .expectedColon rest

end

/-- A refused text: the reason, the line from one and the column in bytes. -/
structure ParseError where
  reason : Reason
  line : Nat
  column : Nat
  deriving DecidableEq, Repr

/-- The wording of a refusal. -/
def ParseError.message (e : ParseError) : String :=
  s!"{e.reason.message} at line {e.line} column {e.column}"

/-- The place of a stop in the whole text. -/
def Stop.locate (s : Stop) (text : List Char) : ParseError :=
  let offset := byteLength text - byteLength s.rest + s.ahead
  let before := (Text.Utf8.encode (String.ofList text)).take offset
  let column := (before.reverse.takeWhile (· ≠ 10)).length
  ⟨s.reason, before.count 10 + 1, column⟩

/-- Reads a value and the blanks behind it. -/
def parseChars (shape : Shape) (text : List Char) : Except Stop Json := do
  let (value, rest) ← takeValue (2 * text.length + 2) depthLimit shape text
  match skipBlanks rest with
  | [] => return value
  | rest => stopAt .trailingCharacters rest

/-- Reads a whole document, of which a shape says what matters. -/
def parseAs (shape : Shape) (s : String) : Except ParseError Json :=
  match parseChars shape s.toList with
  | .ok value => .ok value
  | .error stop => .error (stop.locate s.toList)

/-- Reads a whole document. -/
def parse (s : String) : Except ParseError Json := parseAs .any s

end PathSpace.Json
