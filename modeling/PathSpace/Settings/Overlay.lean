import PathSpace.Json.Reader
import PathSpace.Settings.Basic
import PathSpace.Text.Lower
import PathSpace.Text.Segments
/-! # Settings from a file and the environment

The settings of a file are laid under those of the environment.  A variable such as
`DATASPACE__SESSION__USER` sets the field `user` of `session`, and a dotted name at the
top of a file does the same.  A place in an array is written as a number in brackets, and
the case of names does not matter.

* `Overlay.set` puts a value at a path of places into a document;
* `ClientSettings.load?` reads file and environment.
-/

namespace PathSpace

namespace Overlay

/-- One step into a document. -/
inductive Place where
  /-- The member of that name. -/
  | name (s : String)
  /-- The item of that number; a negative number counts from the end. -/
  | item (i : Int)
  deriving DecidableEq, Repr

/-! ## Setting values -/

/-- The members of an object; any other document has none. -/
def membersOf : Json → List (String × Json)
  | .object members => members
  | _ => []

/-- The items of an array; any other document has none. -/
def itemsOf : Json → List Json
  | .array items => items
  | _ => []

/-- Sets one member, in its place if there is one of that name. -/
def setMember (members : List (String × Json)) (name : String) (value : Json) :
    List (String × Json) :=
  if members.any (·.1 == name) then
    members.map fun m => if m.1 == name then (name, value) else m
  else members ++ [(name, value)]

/-- The member of that name; if there is none, an empty object. -/
def memberOrEmpty (members : List (String × Json)) (name : String) : Json :=
  ((members.find? (·.1 == name)).map (·.2)).getD (.object [])

/-- The place of an item in an array of the given length. -/
def position (length : Nat) : Int → Nat
  | .ofNat n => n
  | .negSucc n => length - (n + 1)

/-- Sets one item; an array that is too short is filled up with `null`. -/
def setItem (items : List Json) (n : Nat) (value : Json) : List Json :=
  (items ++ List.replicate (n + 1 - items.length) Json.null).set n value

mutual

/-- Puts a value under a name.  An object is merged with what is there, member by member. -/
def setName (root : Json) (name : String) : Json → Json
  | .object incoming =>
    let members := membersOf root
    let target := memberOrEmpty members (Text.lower name)
    .object (setMember members (Text.lower name) (merge target incoming))
  | value => .object (setMember (membersOf root) (Text.lower name) value)

/-- Puts several values under their names. -/
def merge (root : Json) : List (String × Json) → Json
  | [] => root
  | (name, value) :: rest => merge (setName root name value) rest

end

/-- Puts a value at a path of places. -/
def set (root : Json) (value : Json) : List Place → Json
  | [] => root
  | [.name name] => setName root name value
  | .name name :: path =>
    let members := membersOf root
    let name := Text.lower name
    .object (setMember members name (set (memberOrEmpty members name) value path))
  | [.item i] =>
    let items := itemsOf root
    .array (setItem items (position items.length i) value)
  | .item i :: path =>
    let items := itemsOf root
    let n := position items.length i
    .array (setItem items n (set (items.getD n Json.null) value path))

/-! ## Reading paths -/

/-- Whether a character may stand in a name of a path. -/
def isNameChar (c : Char) : Bool := c.isAlphanum || c == ' ' || c == '_' || c == '-'

/-- The name at the start of a text. -/
def takeName? (text : List Char) : Option (Place × List Char) :=
  match text.span isNameChar with
  | ([], _) => none
  | (name, rest) => some (.name (String.ofList name), rest)

/-- Whether a character may stand around a number in brackets. -/
def isGap (c : Char) : Bool := c == ' ' || c == '\t'

/-- The number in front of a closing bracket. -/
def takeItem? (text : List Char) : Option (Place × List Char) := do
  let text := text.dropWhile isGap
  let (negative, text) :=
    match text with
    | '-' :: rest => (true, rest)
    | rest => (false, rest)
  let (digits, rest) := text.span Decimal.isDigit
  let n ← Decimal.readNat? digits
  match rest.dropWhile isGap with
  | ']' :: rest =>
    if 1 <<< 63 ≤ n then none else some (.item (if negative then -(n : Int) else n), rest)
  | _ => none

/-- The places behind the first name; every one of them takes a character at least. -/
def places? : (steps : Nat) → List Char → Option (List Place)
  | _, [] => some []
  | 0, _ => none
  | steps + 1, '.' :: rest => do
    let (place, rest) ← takeName? rest
    return place :: (← places? steps rest)
  | steps + 1, '[' :: rest => do
    let (place, rest) ← takeItem? rest
    return place :: (← places? steps rest)
  | _, _ => none

/-- The places of a path; a text that is no path is one name. -/
def path (key : String) : List Place :=
  let text := key.toList
  let read := do
    let (first, rest) ← takeName? text
    return first :: (← places? rest.length rest)
  read.getD [.name key]

/-- Puts values at the paths that their names stand for. -/
def setAll (root : Json) (entries : List (String × Json)) : Json :=
  entries.foldl (fun root e => set root e.2 (path e.1)) root

/-! ## Sources of values -/

/-- What the names of our variables begin with. -/
def variableStart : List Char := "dataspace__".toList

/-- Puts a dot in place of each pair of underscores. -/
def dotted : List Char → List Char
  | '_' :: '_' :: rest => '.' :: dotted rest
  | c :: rest => c :: dotted rest
  | [] => []

/-- The key that an environment variable sets. -/
def variableKey? (name : String) : Option String :=
  (variableStart.isPrefixOf? (Text.lower name).toList).map fun rest =>
    String.ofList (dotted rest)

/-- The entries that an environment sets. -/
def ofEnvironment (env : List (String × String)) : List (String × Json) :=
  env.filterMap fun (name, value) => (variableKey? name).map (·, .string value)

mutual

/-- A document in which each object has only the last of its members of one name. -/
def lastMembers : Json → Json
  | .array items => .array (lastMembersOfItems items)
  | .object members => .object (lastMembersOfObject members)
  | j => j

/-- The items of an array, each with its last members only. -/
def lastMembersOfItems : List Json → List Json
  | [] => []
  | j :: rest => lastMembers j :: lastMembersOfItems rest

/-- The members of an object that no later member of the same name replaces. -/
def lastMembersOfObject : List (String × Json) → List (String × Json)
  | [] => []
  | (name, j) :: rest =>
    let later := lastMembersOfObject rest
    if rest.any (·.1 == name) then later else (name, lastMembers j) :: later

end

end Overlay

namespace ClientSettings

/-- The members of a file's document, which has to be an object. -/
def fileMembers? (text : String) : Option (List (String × Json)) :=
  match Json.parse text with
  | .ok (.object members) => some (Overlay.lastMembersOfObject members)
  | _ => none

/-- Reads the settings of a file, if there is one, overlaid by the environment. -/
def load? (file : Option String) (env : List (String × String)) : Option ClientSettings := do
  let members ←
    match file with
    | none => some []
    | some text => fileMembers? text
  let root := Overlay.setAll (Overlay.setAll (.object []) members) (Overlay.ofEnvironment env)
  ofJson? .lenient root

end ClientSettings

end PathSpace
