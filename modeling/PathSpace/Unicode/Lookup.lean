import PathSpace.Text.Segments
import PathSpace.Unicode.Age
import PathSpace.Unicode.ScriptExtension
import PathSpace.Unicode.Segmentation
/-! # Sets of characters by name

Names of properties and of their values are compared loosely: case, blanks, underscores and
hyphens do not count, and neither does an `is` in front.

* `named?` finds a set by the name of a property, a category or a script;
* `valued?` finds it by a property and one of its values;
* `query?` reads either from its written form.
-/

namespace PathSpace.Unicode

/-- A name as it is compared. -/
def plainName (name : List Char) : List Char :=
  let (named, rest) :=
    match name with
    | i :: s :: rest =>
      if (i == 'i' || i == 'I') && (s == 's' || s == 'S') then (true, rest) else (false, name)
    | _ => (false, name)
  let kept := rest.filter fun c => c.toNat < 128 && c != ' ' && c != '_' && c != '-'
  let plain := kept.map Char.toLower
  if named && plain == ['c'] then ['i', 's', 'c'] else plain

example : plainName "Is_White-Space".toList = "whitespace".toList := by decide

/-- The set of a property, a category or a script.  Some short names that are also those of
properties without a set mean categories. -/
def named? (name : List Char) : Option CharSet :=
  let plain := String.ofList (plainName name)
  let property :=
    if ["cf", "sc", "lc"].contains plain then none else NamedSet.find? properties plain
  property.or ((NamedSet.find? categories plain).or (NamedSet.find? scripts plain))

/-- The set of characters that have a value of a property. -/
def valued? (property value : List Char) : Option CharSet :=
  let value := String.ofList (plainName value)
  match String.ofList (plainName property) with
  | "gc" | "generalcategory" => NamedSet.find? categories value
  | "sc" | "script" => NamedSet.find? scripts value
  | "scx" | "scriptextensions" => NamedSet.find? scriptExtensions value
  | "age" => knownBy value
  | "gcb" | "graphemeclusterbreak" => NamedSet.find? graphemeBreaks value
  | "wb" | "wordbreak" => NamedSet.find? wordBreaks value
  | "sb" | "sentencebreak" => NamedSet.find? sentenceBreaks value
  | _ => none

/-- What a query asks for: a name, or a property and a value with `=`, `:` or `!=` between
them.  Gives a set, and whether its members are asked for or, with the last of these marks, all
other characters. -/
def query? (text : List Char) : Option (CharSet × Bool) :=
  match Text.cutAround ['!', '='] text with
  | some (property, value) => (valued? property value).map (·, false)
  | none =>
    let set :=
      match (Text.cutAt ':' text).or (Text.cutAt '=' text) with
      | some (property, value) => valued? property value
      | none => named? text
    set.map (·, true)

end PathSpace.Unicode
