import PathSpace.Datum.Codec
/-! # Decoders for further encodings

Four decoders that are not built in, and the table that has them beside the built-in
ones.
-/

namespace PathSpace

namespace Decoder

/-- Takes the number of bytes. -/
def size : Decoder := fun payload => .ok (.int (Int64.ofNat payload.length))

/-- Takes the bytes in reverse order, as a value of the given encoding. -/
def reversed (e : Encoding) : Decoder := fun payload => .ok (.custom e payload.reverse)

/-- Reads properties that are separated by commas or semicolons. -/
def commaSeparated : Decoder := fun payload => do
  let s ← (Text.Utf8.decode payload).mapError fun fault => .custom fault.message
  return .properties (.parse (s.map fun c => if c = ',' then ';' else c))

/-- Refuses every payload. -/
def refusing : Decoder := fun _ => .error (.custom "refused")

end Decoder

namespace CodecTable

/-- The built-in decoders and one each for the encodings `0x55` to `0x58`. -/
def extended : CodecTable where
  decoders :=
    [(0x55, Decoder.size), (0x56, .commaSeparated), (0x57, .reversed 0x57), (0x58, .refusing)].foldl
      (fun m e => m.insert e.1 e.2) builtIn.decoders

end CodecTable

end PathSpace
