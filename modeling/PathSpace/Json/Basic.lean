import PathSpace.Decimal.Shortest
import PathSpace.Text.Hex
/-! # JSON documents

`Json` is the tree of a document.  An object keeps its members in the order in
which they stand, a repeated name included, because whether a repetition is an
error is for the reader of the object to say.  `render` writes a tree without
blanks.
-/

namespace PathSpace

/-- A number of a document. -/
inductive JsonNumber where
  /-- An integer that is not negative. -/
  | unsigned (n : UInt64)
  /-- A negative integer. -/
  | negative (n : Int64)
  /-- A number with a fraction or an exponent, or an integer too large for 64 bits. -/
  | float (x : Decimal.Binary64)
  deriving DecidableEq, Repr

/-- The tree of a JSON document. -/
inductive Json where
  | null
  | bool (b : Bool)
  | number (n : JsonNumber)
  | string (s : String)
  | array (items : List Json)
  | object (members : List (String × Json))
  deriving Repr, Inhabited

namespace Json

/-- A natural number as a document; one beyond 64 bits wraps. -/
def ofNat (n : Nat) : Json := .number (.unsigned (UInt64.ofNat n))

/-- An integer as a document. -/
def ofInt (i : Int) : Json :=
  if 0 ≤ i then .number (.unsigned (UInt64.ofNat i.toNat)) else .number (.negative (Int64.ofInt i))

/-- A value, or `null` for none. -/
def ofOption (f : α → Json) : Option α → Json
  | none => .null
  | some a => f a

/-- The value of the last member of that name. -/
def member? (j : Json) (name : String) : Option Json :=
  match j with
  | .object members => (members.reverse.find? (·.1 == name)).map (·.2)
  | _ => none

/-! ## Writing -/

/-- A character inside a string: quotes, backslashes and control characters are escaped. -/
def escapeChar (c : Char) : List Char :=
  match c with
  | '"' => ['\\', '"']
  | '\\' => ['\\', '\\']
  | '\n' => ['\\', 'n']
  | '\r' => ['\\', 'r']
  | '\t' => ['\\', 't']
  | c =>
    if c.toNat = 8 then ['\\', 'b']
    else if c.toNat = 12 then ['\\', 'f']
    else if c.toNat < 32 then '\\' :: 'u' :: Text.Hex.fixed 4 c.toNat
    else [c]

/-- A string with its quotes. -/
def renderString (s : String) : String :=
  "\"" ++ String.ofList (s.toList.flatMap escapeChar) ++ "\""

/-- A number. -/
def renderNumber : JsonNumber → String
  | .unsigned n => Decimal.natText n.toNat
  | .negative n => Decimal.intText n.toInt
  | .float x => x.jsonText

mutual

/-- The text of a tree, without blanks. -/
def render : Json → String
  | .null => "null"
  | .bool true => "true"
  | .bool false => "false"
  | .number n => renderNumber n
  | .string s => renderString s
  | .array items => "[" ++ ",".intercalate (renderItems items) ++ "]"
  | .object members => "\x7b" ++ ",".intercalate (renderMembers members) ++ "\x7d"

/-- The texts of the items of an array. -/
def renderItems : List Json → List String
  | [] => []
  | j :: rest => render j :: renderItems rest

/-- The texts of the members of an object. -/
def renderMembers : List (String × Json) → List String
  | [] => []
  | (name, j) :: rest => (renderString name ++ ":" ++ render j) :: renderMembers rest

end

end Json

end PathSpace
