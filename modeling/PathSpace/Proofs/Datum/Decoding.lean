import PathSpace.Proofs.Datum.Rereading
/-!
# What can be wrong with a payload

A payload of a built-in encoding is taken as it is, or it has to be a text, and of integers and
fractions the text has to be a number.  What is wrong with it is said in this order.  A JSON
document is read as a text, and if it is none, the complaint is about a text.

## Key results

- `Decoder.utf8_cases`: a payload is a text, or it is refused
- `CodecTable.outcome_decode`: what comes of a payload, case by case
- `CodecTable.classifies_decode`: when which fault is found
- `CodecTable.not_named_by_encoding`: the fault of a JSON document names another encoding
-/

namespace PathSpace

open Text (Bytes)

/-- The encodings that are built in. -/
def Encoding.builtIn : List Encoding := [.raw, .string, .properties, .json, .int, .float]

/-- A text is an optional sign and one or more digits, and these stand for a signed 64-bit
integer. -/
def Decimal.SpellsInt64 (s : String) : Prop := ∃ i : Int64, Spells s.toList i.toInt

namespace Decoder

/-- A payload is a text, or it is refused. -/
theorem utf8_cases (e : Encoding) (payload : Bytes) :
    (∃ s, Text.Utf8.encode s = payload) ∨
      (¬ Text.Utf8.WellFormed payload ∧
        ∃ fault, utf8 e payload = .error (.invalidUtf8 e fault)) := by
  by_cases h : Text.Utf8.WellFormed payload
  · exact .inl h
  · obtain ⟨fault, hfault⟩ := Text.Utf8.exists_fault_iff.2 h
    refine .inr ⟨h, fault, ?_⟩
    rw [utf8, hfault]
    rfl

private theorem int_of_text (s : String) :
    Decoder.int (Text.Utf8.encode s) =
      Value.int <$> (Decimal.readInt64 s).mapError .invalidInt := by
  rw [int, utf8_encode]
  rfl

private theorem float_of_text (s : String) :
    Decoder.float (Text.Utf8.encode s) =
      Value.float <$> (Decimal.Binary64.read s).mapError .invalidFloat := by
  rw [float, utf8_encode]
  rfl

end Decoder

namespace CodecTable

/-! ## Case by case -/

/-- What comes of a payload, with the reason for it. -/
inductive Outcome (e : Encoding) (payload : Bytes) : Except DecodeFault Value → Prop
  | unknown (he : e ∉ Encoding.builtIn) : Outcome e payload (.error (.unknownEncoding e))
  | malformed (he : e ∈ Encoding.builtIn) (hraw : e ≠ .raw) (h : ¬ Text.Utf8.WellFormed payload)
    (fault) : Outcome e payload (.error (.invalidUtf8 (if e = .json then .string else e) fault))
  | noInteger (he : e = .int) {s} (hs : Text.Utf8.encode s = payload)
    (h : ¬ Decimal.SpellsInt64 s) (fault) : Outcome e payload (.error (.invalidInt fault))
  | noFraction (he : e = .float) (h : Text.Utf8.WellFormed payload) (fault) :
    Outcome e payload (.error (.invalidFloat fault))
  | value (he : e ∈ Encoding.builtIn) (htext : e = .raw ∨ Text.Utf8.WellFormed payload)
    (hint : e = .int → ∃ s, Text.Utf8.encode s = payload ∧ Decimal.SpellsInt64 s) (v) :
    Outcome e payload (.ok v)

/-- An encoding without a built-in decoder is unknown. -/
private theorem decode_of_not_builtIn {e : Encoding} (he : e ∉ Encoding.builtIn) (payload : Bytes) :
    builtIn.decode e payload = .error (.unknownEncoding e) := by
  have hkeys : builtIn.decoders.keys = Encoding.builtIn := rfl
  have hnone : builtIn.decoders.find? e = none := by
    by_contra hsome
    obtain ⟨d, hd⟩ := Option.ne_none_iff_exists'.1 hsome
    exact he (hkeys ▸ SortedMap.mem_keys_iff.2 ⟨d, hd⟩)
  rw [decode, hnone]

/-- A decoder that reads a text, and takes every text. -/
private theorem outcome_text {e e' : Encoding} (he : e ∈ Encoding.builtIn) (hraw : e ≠ .raw)
    (hint : e ≠ .int) (hname : e' = if e = .json then .string else e) (f : String → Value)
    (payload : Bytes) : Outcome e payload (f <$> Decoder.utf8 e' payload) := by
  rcases Decoder.utf8_cases e' payload with ⟨s, rfl⟩ | ⟨h, fault, hfault⟩
  · rw [Decoder.utf8_encode]
    exact .value he (.inr ⟨s, rfl⟩) (absurd · hint) (f s)
  · rw [hfault, hname]
    exact .malformed he hraw h fault

private theorem outcome_int (payload : Bytes) : Outcome .int payload (Decoder.int payload) := by
  rcases Decoder.utf8_cases .int payload with ⟨s, rfl⟩ | ⟨h, fault, hfault⟩
  · rw [Decoder.int_of_text]
    cases hread : Decimal.readInt64 s with
    | ok i =>
      have hspells : Decimal.SpellsInt64 s := ⟨i, Decimal.readInt64_eq_ok_iff.1 hread⟩
      exact .value (by decide) (.inr ⟨s, rfl⟩) (fun _ => ⟨s, rfl, hspells⟩) (.int i)
    | error fault =>
      refine .noInteger rfl rfl ?_ fault
      -- a text that spells an integer would have been read
      rintro ⟨i, hi⟩
      rw [Decimal.readInt64_eq_ok_iff.2 hi] at hread
      cases hread
  · rw [Decoder.int, hfault]
    exact .malformed (e := .int) (by decide) (by decide) h fault

private theorem outcome_float (payload : Bytes) :
    Outcome .float payload (Decoder.float payload) := by
  rcases Decoder.utf8_cases .float payload with ⟨s, rfl⟩ | ⟨h, fault, hfault⟩
  · rw [Decoder.float_of_text]
    cases Decimal.Binary64.read s with
    | ok x => exact .value (by decide) (.inr ⟨s, rfl⟩) (fun he => absurd he (by decide)) (.float x)
    | error fault => exact .noFraction rfl ⟨s, rfl⟩ fault
  · rw [Decoder.float, hfault]
    exact .malformed (e := .float) (by decide) (by decide) h fault

/-- What comes of a payload. -/
theorem outcome_decode (e : Encoding) (payload : Bytes) :
    Outcome e payload (builtIn.decode e payload) := by
  by_cases he : e ∈ Encoding.builtIn
  · have hcases := he
    simp only [Encoding.builtIn, List.mem_cons, List.not_mem_nil, or_false] at hcases
    -- raw, string, properties, json, integer, float
    rcases hcases with rfl | rfl | rfl | rfl | rfl | rfl
    · exact .value he (.inl rfl) (fun he => absurd he (by decide)) (.raw payload)
    · exact outcome_text he (by decide) (by decide) rfl Value.string payload
    · exact outcome_text he (by decide) (by decide) rfl
        (fun s => Value.properties (Properties.parse s)) payload
    · exact outcome_text he (by decide) (by decide) rfl Value.string payload
    · exact outcome_int payload
    · exact outcome_float payload
  · rw [decode_of_not_builtIn he]
    exact .unknown he

/-! ## Which fault is found -/

/-- When which fault is found in a payload. -/
structure Classifies (e : Encoding) (payload : Bytes) (result : Except DecodeFault Value) :
    Prop where
  unknownEncoding : ∀ e',
    result = .error (.unknownEncoding e') ↔ e' = e ∧ e ∉ Encoding.builtIn
  /-- JSON documents are said to be texts. -/
  invalidUtf8 : ∀ e', (∃ fault, result = .error (.invalidUtf8 e' fault)) ↔
    (e' = if e = .json then .string else e) ∧
      e ∈ Encoding.builtIn ∧ e ≠ .raw ∧ ¬ Text.Utf8.WellFormed payload
  invalidInt : (∃ fault, result = .error (.invalidInt fault)) ↔
    e = .int ∧ ∃ s, Text.Utf8.encode s = payload ∧ ¬ Decimal.SpellsInt64 s
  invalidFloat : ∀ fault, result = .error (.invalidFloat fault) →
    e = .float ∧ Text.Utf8.WellFormed payload
  /-- There is no other fault. -/
  value : (∃ v, result = .ok v) ∨ ∃ fault, result = .error fault ∧ ∀ message, fault ≠ .custom message

/-- Every outcome is one of those that are told apart. -/
private theorem Outcome.classifies {e : Encoding} {payload : Bytes}
    {result : Except DecodeFault Value}
    (h : Outcome e payload result) : Classifies e payload result := by
  have hbuiltIn : .int ∈ Encoding.builtIn ∧ .float ∈ Encoding.builtIn := by decide
  have htext {s : String} (hs : Text.Utf8.encode s = payload) : Text.Utf8.WellFormed payload :=
    ⟨s, hs⟩
  cases h with
  | unknown he =>
    have hint : e ≠ .int := fun h => he (h ▸ hbuiltIn.1)
    exact {
      unknownEncoding := by simp [he, eq_comm]
      invalidUtf8 := by simp [he]
      invalidInt := by simp [hint]
      invalidFloat := by simp
      value := .inr ⟨_, rfl, by simp⟩ }
  | malformed he hraw hmalformed fault =>
    have hno : ∀ s, Text.Utf8.encode s ≠ payload := fun s hs => hmalformed (htext hs)
    exact {
      unknownEncoding := by simp [he]
      invalidUtf8 := by simp [he, hraw, hmalformed, eq_comm]
      invalidInt := by simp [hno]
      invalidFloat := by simp
      value := .inr ⟨_, rfl, by simp⟩ }
  | noInteger he hs hspells fault =>
    subst he
    exact {
      unknownEncoding := by simp [hbuiltIn.1]
      invalidUtf8 := by simp [htext hs]
      invalidInt := by simpa using ⟨_, hs, hspells⟩
      invalidFloat := by simp
      value := .inr ⟨_, rfl, by simp⟩ }
  | noFraction he hread fault =>
    have hint : e ≠ .int := he ▸ by decide
    exact {
      unknownEncoding := by simp [he, hbuiltIn.2]
      invalidUtf8 := by simp [hread]
      invalidInt := by simp [hint]
      invalidFloat := by simp [he, hread]
      value := .inr ⟨_, rfl, by simp⟩ }
  | value he hread hspells v =>
    exact {
      unknownEncoding := by simp [he]
      invalidUtf8 := fun e' => by
        refine iff_of_false (by simp) ?_
        rintro ⟨-, -, hraw, hmalformed⟩
        exact hmalformed (hread.resolve_left hraw)
      invalidInt := by
        refine iff_of_false (by simp) ?_
        rintro ⟨hint, s, rfl, hnot⟩
        -- a payload is the encoding of one text only, and that one spells an integer
        obtain ⟨s', hs', hspells⟩ := hspells hint
        exact hnot (Text.Utf8.encode_injective hs' ▸ hspells)
      invalidFloat := by simp
      value := .inl ⟨v, rfl⟩ }

/-- Every payload is classified, and what is no text is told by its encoding, except that JSON
documents are said to be texts. -/
theorem classifies_decode (e : Encoding) (payload : Bytes) :
    Classifies e payload (builtIn.decode e payload) :=
  (outcome_decode e payload).classifies

/-- A payload of JSON that is no text is said to be one of another encoding. -/
theorem not_named_by_encoding :
    ¬ ∀ (e : Encoding) (payload : Bytes),
      (∃ fault, builtIn.decode e payload = .error (.invalidUtf8 e fault)) ↔
        e ∈ Encoding.builtIn ∧ e ≠ .raw ∧ ¬ Text.Utf8.WellFormed payload := by
  intro h
  have hfault : Text.Utf8.decode [0xFF] = .error ⟨0, some 1⟩ := rfl
  have hmalformed : ¬ Text.Utf8.WellFormed [0xFF] := Text.Utf8.exists_fault_iff.1 ⟨_, hfault⟩
  obtain ⟨fault, hjson⟩ := (h .json [0xFF]).2 ⟨by decide, by decide, hmalformed⟩
  have hdecode : builtIn.decode .json [0xFF] = .error (.invalidUtf8 .string ⟨0, some 1⟩) := rfl
  rw [hdecode] at hjson
  cases hjson

end CodecTable

end PathSpace
