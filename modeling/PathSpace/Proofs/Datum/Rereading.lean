import PathSpace.Datum.Codec
import PathSpace.Proofs.Address.Properties
import PathSpace.Proofs.Decimal.Integer
import PathSpace.Proofs.Fault.Computation
import PathSpace.Proofs.Text.Utf8
/-!
# Reading values back

A value is sent as the bytes that `Value.encode` gives, under the number that `Value.encoding`
gives.  A JSON document is a text by then, and goes out under the number of texts.  Whatever bytes
a value came from, its own bytes are read as that value.

## Key results

- `CodecTable.cases_of_decode`: what the built-in decoders make of a payload
- `CodecTable.builtIn_rereads`: the bytes of a value are read as that value
-/

namespace PathSpace

open Text (Bytes)

/-- A value that stands for itself: bytes, a text or an integer. -/
def Value.IsElementary : Value → Prop
  | .raw _ | .string _ | .int _ => True
  | .properties _ | .float _ | .custom .. => False

/-- The encodings that are read without rounding. -/
def Encoding.exact : List Encoding := [.raw, .string, .properties, .json, .int]

namespace Decoder

/-- The bytes of a text are read as the text. -/
theorem utf8_encode (e : Encoding) (s : String) : utf8 e (Text.Utf8.encode s) = .ok s := by
  rw [utf8, Text.Utf8.decode_encode]
  rfl

/-- A string that was encoded is decoded. -/
private theorem string_encode (s : String) :
    Decoder.string (Text.Utf8.encode s) = .ok (.string s) := by
  rw [string, utf8_encode]
  rfl

/-- Plain properties that were encoded are decoded. -/
private theorem properties_encode {p : Properties} (hp : p.Plain) :
    Decoder.properties (Text.Utf8.encode p.text) = .ok (.properties p) := by
  rw [properties, utf8_encode]
  show Except.ok (Value.properties (Properties.parse p.text)) = _
  rw [Properties.parse_text hp]

/-- An integer that was encoded is decoded. -/
private theorem int_encode (i : Int64) :
    Decoder.int (Text.Utf8.encode (Decimal.intText i.toInt)) = .ok (.int i) := by
  rw [int, utf8_encode]
  show Value.int <$>
    (Decimal.readInt64 (Decimal.intText i.toInt)).mapError DecodeFault.invalidInt = _
  rw [Decimal.readInt64_intText]
  rfl

end Decoder

namespace CodecTable

/-! ## The built-in decoders -/

private theorem decode_raw : builtIn.decode .raw = Decoder.raw := rfl

private theorem decode_properties : builtIn.decode .properties = Decoder.properties := rfl

private theorem decode_int : builtIn.decode .int = Decoder.int := rfl

/-- What the string decoder gives is elementary. -/
private theorem elementary_of_string {payload : Bytes} {v : Value}
    (h : Decoder.string payload = .ok v) :
    v.IsElementary := by
  rw [Decoder.string] at h
  obtain ⟨s, -, rfl⟩ := Computation.exists_of_map_eq_ok h
  trivial

/-- What is decoded without rounding is elementary, or it is properties without separators out of
place. -/
theorem cases_of_decode {e : Encoding} {payload : Bytes} {v : Value} (he : e ∈ Encoding.exact)
    (h : builtIn.decode e payload = .ok v) :
    v.IsElementary ∨ ∃ p : Properties, p.Plain ∧ v = .properties p := by
  simp only [Encoding.exact, List.mem_cons, List.not_mem_nil, or_false] at he
  -- raw, string, properties, json, integer
  rcases he with rfl | rfl | rfl | rfl | rfl
  · rw [decode_raw] at h
    cases h
    exact .inl trivial
  · exact .inl (elementary_of_string h)
  · rw [decode_properties, Decoder.properties] at h
    obtain ⟨s, -, rfl⟩ := Computation.exists_of_map_eq_ok h
    exact .inr ⟨_, Properties.plain_parse s, rfl⟩
  · exact .inl (elementary_of_string h)
  · rw [decode_int, Decoder.int] at h
    obtain ⟨s, -, h⟩ := Computation.exists_of_bind_eq_ok h
    obtain ⟨i, -, rfl⟩ := Computation.exists_of_map_eq_ok h
    exact .inl trivial

/-- The bytes of a value are read as that value if it is elementary or was read from a payload
without rounding. -/
theorem builtIn_rereads {v : Value}
    (h : v.IsElementary ∨ ∃ e ∈ Encoding.exact, ∃ payload, builtIn.decode e payload = .ok v) :
    builtIn.decode v.encoding v.encode = .ok v := by
  have hcases : v.IsElementary ∨ ∃ p : Properties, p.Plain ∧ v = .properties p := by
    rcases h with h | ⟨e, he, payload, h⟩
    · exact .inl h
    · exact cases_of_decode he h
  rcases hcases with h | ⟨p, hp, rfl⟩
  · cases v with
    | raw bytes => rfl
    | string s => exact Decoder.string_encode s
    | int i => exact Decoder.int_encode i
    | properties | float | custom => cases h
  · exact Decoder.properties_encode hp

/-- Properties with a repeated name, an empty one, an entry without a value and an `=` in a value
are written in their order, and read back. -/
theorem rereads_jumbled_properties :
    Encoding.properties ∈ Encoding.exact ∧
      ∃ v : Value,
        builtIn.decode .properties (Text.Utf8.encode "b;a=1;=;a=x=y") = .ok v ∧
        v.text = "=;a=x=y;b=" ∧
        builtIn.decode v.encoding v.encode = .ok v := by
  have hexact : Encoding.properties ∈ Encoding.exact := by decide
  have hread : builtIn.decode .properties (Text.Utf8.encode "b;a=1;=;a=x=y") =
      .ok (.properties (Properties.parse "b;a=1;=;a=x=y")) := by
    rw [decode_properties, Decoder.properties, Decoder.utf8_encode]
    rfl
  exact ⟨hexact, _, hread, rfl, builtIn_rereads (.inr ⟨_, hexact, _, hread⟩)⟩

end CodecTable

end PathSpace
