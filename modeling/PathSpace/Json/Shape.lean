/-! # Shapes of documents

Who knows what a document is to hold need not look at the rest of it.  A `Shape` says which
members of an object are fields; the others are passed over when a text is read by its shape.
-/

namespace PathSpace.Json

/-- What a document is to hold. -/
inductive Shape where
  /-- Anything. -/
  | any
  /-- Items that are all alike. -/
  | list (item : Shape)
  /-- Fields with their names, as an object, or as an array in their order. -/
  | record (fields : List (String × Shape))
  deriving Repr

namespace Shape

/-- The names of the fields. -/
def fieldNames : Shape → List String
  | .record fields => fields.map (·.1)
  | _ => []

/-- The shape of item number `i` of an array. -/
def item (s : Shape) (i : Nat) : Shape :=
  match s with
  | .any => .any
  | .list item => item
  | .record fields => (fields[i]?.map (·.2)).getD .any

/-- The shape of the member of that name, unless it is passed over. -/
def member? (s : Shape) (name : String) : Option Shape :=
  match s with
  | .record fields => (fields.find? (·.1 == name)).map (·.2)
  | _ => some .any

end Shape

end PathSpace.Json
