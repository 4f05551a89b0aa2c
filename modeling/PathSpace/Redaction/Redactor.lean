import PathSpace.Pattern.Replace
import PathSpace.Settings.Basic
/-! # Masking what is sensitive

A `Redactor` masks a field whose name says that it is sensitive, and within other values
every part that looks like a secret.

* `redactValue` masks parts of a value;
* `redact` masks a named field;
* `redactProperties` masks properties for the log.
-/

namespace PathSpace

/-- What is masked, and by what. -/
structure Redactor where
  enabled : Bool
  /-- Parts of field names, in lower case. -/
  fieldNames : List String
  /-- What secrets look like. -/
  valuePatterns : List Matcher
  replacement : String

namespace Redactor

/-- The redactor that some settings describe; expressions that cannot be searched for are left out. -/
def ofSettings (s : RedactionSettings) : Redactor where
  enabled := s.enabled
  fieldNames := s.patterns.flatMap fun p => p.fieldNames.map Text.lower
  valuePatterns := s.patterns.filterMap fun p => p.valuePattern.bind Matcher.parse?
  replacement := s.replacement

/-- The redactor of the default settings. -/
def standard : Redactor := ofSettings {}

/-- Whether the name of a field says that it is sensitive. -/
def isSensitive (r : Redactor) (field : String) : Bool :=
  r.enabled && r.fieldNames.any fun name => Text.occursIn name.toList (Text.lower field).toList

/-- Masks the parts of a value that look like secrets, pattern by pattern. -/
def redactValue (r : Redactor) (value : String) : String :=
  if r.enabled then r.valuePatterns.foldl (fun v m => m.replaceAll r.replacement v) value
  else value

/-- Masks a field. -/
def redact (r : Redactor) (field value : String) : String :=
  if r.isSensitive field then r.replacement else r.redactValue value

/-- Properties as text, with each of them masked. -/
def redactProperties (r : Redactor) (p : Properties) : String :=
  Properties.text (p.mapValues r.redact)

end Redactor

end PathSpace
