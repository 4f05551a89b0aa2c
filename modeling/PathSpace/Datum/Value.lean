import PathSpace.Address.Properties
import PathSpace.Decimal.Shortest
import PathSpace.Text.Hex
/-! # Values

A value is what stands under a path.  `Value.encode` gives the bytes that are sent for
it and `Value.encoding` the number that is sent with them, by which the receiver chooses
how to read the bytes.
-/

namespace PathSpace

open Text (Bytes)

/-- The number that says how a payload is to be read. -/
abbrev Encoding := UInt8

namespace Encoding

/-- Bytes as they are. -/
def raw : Encoding := 0

/-- Text. -/
def string : Encoding := 2

/-- Properties as text. -/
def properties : Encoding := 3

/-- A JSON document, taken as text. -/
def json : Encoding := 4

/-- A decimal integer. -/
def int : Encoding := 6

/-- A decimal fraction. -/
def float : Encoding := 7

end Encoding

/-- A value under a path. -/
inductive Value where
  | raw (bytes : Bytes)
  | string (s : String)
  | properties (p : Properties)
  | int (i : Int64)
  | float (x : Decimal.Binary64)
  /-- A payload of an encoding that is not built in. -/
  | custom (encoding : Encoding) (bytes : Bytes)
  deriving DecidableEq

namespace Value

/-- The encoding that a value is sent with. -/
def encoding : Value → Encoding
  | .raw _ => .raw
  | .string _ => .string
  | .properties _ => .properties
  | .int _ => .int
  | .float _ => .float
  | .custom e _ => e

/-- A value for a reader. -/
def text : Value → String
  | .raw bytes => "[x " ++ Text.Hex.encode bytes ++ "]"
  | .string s => s
  | .properties p => p.text
  | .int i => Decimal.intText i.toInt
  | .float x => x.text
  | .custom e bytes => "[" ++ Text.Hex.flag e ++ " " ++ Text.Hex.encode bytes ++ "]"

/-- The bytes that are sent for a value. -/
def encode : Value → Bytes
  | .raw bytes => bytes
  | .custom _ bytes => bytes
  | v => Text.Utf8.encode v.text

/-- A value as properties; one of another kind is the text of a property of its own. -/
def toProperties : Value → Properties
  | .properties p => p
  | v => SortedMap.empty.insert "value" v.text

end Value

end PathSpace
