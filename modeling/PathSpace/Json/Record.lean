import PathSpace.Json.Reader
import PathSpace.Text.Lower
/-! # Records in JSON documents

A record is written as an object or, field by field, as an array.  An object may
have members that are no fields, but no field twice; an array may stop early only
before fields that have a default.  `Slots` holds what was found for each field, and
`Reading` says how leaves are taken: `Reading.strict` takes only what has the
right kind, `Reading.lenient` also takes a leaf whose text can be understood.
-/

namespace PathSpace.Json

/-- What a document gives for the fields of a record, in the order of the fields. -/
structure Slots where
  /-- Whether the record was written as an array. -/
  positional : Bool
  values : List (Option Json)

/-- The slots of a record.  `surplus` allows an array to have more items than there are
fields. -/
def slots? (surplus : Bool) (shape : Shape) (j : Json) : Option Slots :=
  let fields := shape.fieldNames
  match j with
  | .array items =>
    if fields.length < items.length ∧ !surplus then none
    else
      let found := (items.take fields.length).map some
      some ⟨true, found ++ List.replicate (fields.length - found.length) none⟩
  | .object members =>
    if fields.any fun f => 1 < (members.filter (·.1 == f)).length then none
    else some ⟨false, fields.map fun f => (members.find? (·.1 == f)).map (·.2)⟩
  | _ => none

namespace Slots

/-- The slot of field number `i`. -/
def slot (s : Slots) (i : Nat) : Option Json := (s.values[i]?).join

/-- A field that has to be there. -/
def required (s : Slots) (i : Nat) (read : Json → Option α) : Option α :=
  (s.slot i).bind read

/-- A field that has a default. -/
def withDefault (s : Slots) (i : Nat) (fallback : α) (read : Json → Option α) : Option α :=
  match s.slot i with
  | none => some fallback
  | some j => read j

/-- A field that may be `null`, and may be left out of an object. -/
def nullable (s : Slots) (i : Nat) (read : Json → Option α) : Option (Option α) :=
  match s.slot i with
  | none => if s.positional then none else some none
  | some .null => some none
  | some j => some <$> read j

/-- A field that may be `null` or left out of either form. -/
def nullableWithDefault (s : Slots) (i : Nat) (read : Json → Option α) : Option (Option α) :=
  match s.slot i with
  | none | some .null => some none
  | some j => some <$> read j

end Slots

/-- How the leaves of a record are taken. -/
structure Reading where
  /-- A text. -/
  text? : Json → Option String
  /-- A truth value. -/
  flag? : Json → Option Bool
  /-- The name of one of several alternatives. -/
  name? : Json → Option String
  /-- Whether an array may have more items than the record has fields. -/
  surplus : Bool

namespace Reading

/-- Takes a string as a text, a truth value as a flag, and a string or an object of one
`null` member as a name. -/
def strict : Reading where
  text?
    | .string s => some s
    | _ => none
  flag?
    | .bool b => some b
    | _ => none
  name?
    | .string s => some s
    | .object [(name, .null)] => some name
    | _ => none
  surplus := false

/-- The words for a truth value, in any case. -/
def flagWord? (s : String) : Option Bool :=
  let word := String.ofList (s.toList.map Char.toLower)
  if word ∈ ["1", "true", "on", "yes"] then some true
  else if word ∈ ["0", "false", "off", "no"] then some false
  else none

/-- Takes any leaf as its text, numbers and words as flags, and an object of one member as
a name.  Names count in lower case. -/
def lenient : Reading where
  text?
    | .string s => some s
    | .bool b => some (if b then "true" else "false")
    | .number (.float x) => some x.text
    | .number (.unsigned n) =>
      some (if n.toNat < 1 <<< 63 then Decimal.natText n.toNat else (Decimal.Binary64.ofNat n.toNat).text)
    | .number (.negative n) => some (Decimal.intText n.toInt)
    | _ => none
  flag?
    | .bool b => some b
    | .string s => flagWord? s
    | .number (.unsigned n) => some (n ≠ 0)
    | .number (.negative _) => some true
    | .number (.float x) => some !x.isZero
    | _ => none
  name?
    | .string s => some (Text.lower s)
    | .object [(name, _)] => some (Text.lower name)
    | _ => none
  surplus := true

end Reading

/-- An unsigned integer below `bound`. -/
def below? (bound : Nat) : Json → Option Nat
  | .number (.unsigned n) => if n.toNat < bound then some n.toNat else none
  | _ => none

/-- A signed 32-bit integer. -/
def int32? : Json → Option Int32
  | .number (.unsigned n) => if n.toNat ≤ Int32.maxValue.toInt then some (Int32.ofInt n.toNat) else none
  | .number (.negative n) => if Int32.minValue.toInt ≤ n.toInt then some (Int32.ofInt n.toInt) else none
  | _ => none

/-- The items of an array, each of them read. -/
def list? (read : Json → Option α) : Json → Option (List α)
  | .array items => items.mapM read
  | _ => none

/-- The members of an object, each value read; a later member of the same name follows. -/
def members? (read : Json → Option α) : Json → Option (List (String × α))
  | .object members => members.mapM fun (name, j) => (read j).map (name, ·)
  | _ => none

end PathSpace.Json
