import PathSpace.Datum.Value
import PathSpace.Fault.Error
/-! # Decoding payloads

A `CodecTable` holds a decoder for each encoding.  A decoder that is in place is never
replaced.

* `CodecTable.register` adds a decoder;
* `CodecTable.decode` reads a payload with the decoder of its encoding;
* `CodecTable.builtIn` is the table of the built-in encodings.
-/

namespace PathSpace

open Text (Bytes)

/-- Why a payload cannot be read. -/
inductive DecodeFault where
  | unknownEncoding (e : Encoding)
  | invalidUtf8 (e : Encoding) (fault : Text.Utf8.Fault)
  | invalidInt (fault : Decimal.IntFault)
  | invalidFloat (fault : Decimal.Binary64.Fault)
  /-- The complaint of a decoder that is not built in. -/
  | custom (message : String)
  deriving DecidableEq, Repr

namespace DecodeFault

/-- The wording of a fault. -/
def message : DecodeFault → String
  | .unknownEncoding e => "no decoder registered for encoding " ++ Text.Hex.flag e
  | .invalidUtf8 e _ => "payload for encoding " ++ Text.Hex.flag e ++ " is not valid UTF-8"
  | .invalidInt fault => "failed to decode INT value: " ++ fault.message
  | .invalidFloat fault => "failed to decode FLOAT value: " ++ fault.message
  | .custom message => message

/-- The wording of the fault behind the fault. -/
def source? : DecodeFault → Option String
  | .unknownEncoding _ | .custom _ => none
  | .invalidUtf8 _ fault => some fault.message
  | .invalidInt fault => some fault.message
  | .invalidFloat fault => some fault.message

end DecodeFault

/-- An error that a payload could not be read. -/
def Error.ofDecodeFault (fault : DecodeFault) : Error where
  code :=
    match fault with
    | .unknownEncoding _ => .unknownEncoding
    | _ => .decodeFailed
  userMessage := "Failed to decode value"
  internalMessage := some fault.message
  source := some fault.message

/-- A way to read payloads. -/
abbrev Decoder := Bytes → Except DecodeFault Value

namespace Decoder

/-- The text of a payload. -/
def utf8 (e : Encoding) (payload : Bytes) : Except DecodeFault String :=
  (Text.Utf8.decode payload).mapError (.invalidUtf8 e)

/-- Takes the bytes as they are. -/
def raw : Decoder := fun payload => .ok (.raw payload)

/-- Takes the bytes as text. -/
def string : Decoder := fun payload => Value.string <$> utf8 .string payload

/-- Reads properties. -/
def properties : Decoder := fun payload =>
  (fun s => Value.properties (Properties.parse s)) <$> utf8 .properties payload

/-- Reads an integer. -/
def int : Decoder := fun payload => do
  let s ← utf8 .int payload
  Value.int <$> (Decimal.readInt64 s).mapError .invalidInt

/-- Reads a fraction. -/
def float : Decoder := fun payload => do
  let s ← utf8 .float payload
  Value.float <$> (Decimal.Binary64.read s).mapError .invalidFloat

end Decoder

/-- The decoders by encoding. -/
structure CodecTable where
  decoders : SortedMap Encoding Decoder := ∅

namespace CodecTable

/-- The table without decoders. -/
def empty : CodecTable := {}

/-- Whether an encoding has a decoder. -/
def contains (t : CodecTable) (e : Encoding) : Bool := t.decoders.contains e

/-- Adds a decoder for an encoding that has none. -/
def register (t : CodecTable) (e : Encoding) (d : Decoder) : Except Error CodecTable :=
  if t.contains e then .error (.registrationConflict e)
  else .ok ⟨t.decoders.insert e d⟩

/-- Reads a payload with the decoder of its encoding. -/
def decode (t : CodecTable) (e : Encoding) (payload : Bytes) : Except DecodeFault Value :=
  match t.decoders.find? e with
  | none => .error (.unknownEncoding e)
  | some d => d payload

/-- The decoders of the built-in encodings. -/
def builtIn : CodecTable where
  decoders := .ofList [
    (.raw, .raw), (.string, .string), (.properties, .properties), (.json, .string),
    (.int, .int), (.float, .float)]

end CodecTable

end PathSpace
