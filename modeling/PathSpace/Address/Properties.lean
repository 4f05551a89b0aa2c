import PathSpace.Collections.SortedMap
import PathSpace.Json.Record
import PathSpace.Text.Segments
/-! # Properties

Properties are named texts, written `name=value` and separated by semicolons, in the
order of the names.

* `Properties.parse` takes an entry without `=` as a name with an empty value;
* `Properties.parseAssignments` passes over such entries, and over empty names;
* `Properties.text` writes the entries.
-/

namespace PathSpace

/-- Named texts in the order of their names. -/
abbrev Properties := SortedMap String String

namespace Properties

/-- The name and the value of an entry; without `=` the value is empty. -/
def entry (piece : List Char) : String × String :=
  match Text.cutAt '=' piece with
  | some (name, value) => (String.ofList name, String.ofList value)
  | none => (String.ofList piece, "")

/-- The name and the value of an entry that has an `=` behind a name. -/
def assignment? (piece : List Char) : Option (String × String) :=
  match Text.cutAt '=' piece with
  | none | some ([], _) => none
  | some (name, value) => some (String.ofList name, String.ofList value)

/-- Reads the entries of a text; of entries with the same name the last one counts. -/
def parse (s : String) : Properties :=
  if s.isEmpty then ∅ else .ofList ((s.toList.splitOn ';').map entry)

/-- Reads those entries of a text that assign to a name. -/
def parseAssignments (s : String) : Properties :=
  .ofList ((s.toList.splitOn ';').filterMap assignment?)

/-- An entry as a text. -/
def entryText (e : String × String) : String := e.1 ++ "=" ++ e.2

/-- The entries in order, separated by semicolons. -/
def text (p : Properties) : String := ";".intercalate (p.toList.map entryText)

/-- Reads properties from a document. -/
def ofJson? (j : Json) : Option Properties :=
  (Json.members? Json.Reading.strict.text? j).map SortedMap.ofList

end Properties

end PathSpace
