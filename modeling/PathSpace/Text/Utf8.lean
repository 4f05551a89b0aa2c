/-! # UTF-8

`encode` writes a text as bytes.  `decode` reads bytes as text and refuses
whatever is not well formed, saying where the good part ends and how many bytes
of the next character are wrong.
-/

namespace PathSpace.Text

/-- A payload. -/
abbrev Bytes := List UInt8

namespace Utf8

/-- Why bytes are not a text. -/
structure Fault where
  /-- The number of bytes that form whole characters before the fault. -/
  validUpTo : Nat
  /-- How many bytes are wrong; `none` when the bytes end inside a character. -/
  length : Option Nat
  deriving DecidableEq, Repr

/-- The wording of a fault. -/
def Fault.message (f : Fault) : String :=
  match f.length with
  | some n => s!"invalid utf-8 sequence of {n} bytes from index {f.validUpTo}"
  | none => s!"incomplete utf-8 byte sequence from index {f.validUpTo}"

/-- The bytes of a text. -/
def encode (s : String) : Bytes := s.toList.flatMap String.utf8EncodeChar

/-- Whether `b` lies in `lo ..= hi`. -/
def within (lo hi b : UInt8) : Bool := lo ≤ b && b ≤ hi

/-- Whether `b` continues a character. -/
def continues (b : UInt8) : Bool := within 0x80 0xBF b

/-- The second bytes that may follow a leading byte of a three-byte character. -/
def secondOfThree (lead b : UInt8) : Bool :=
  if lead = 0xE0 then within 0xA0 0xBF b
  else if lead = 0xED then within 0x80 0x9F b
  else continues b

/-- The second bytes that may follow a leading byte of a four-byte character. -/
def secondOfFour (lead b : UInt8) : Bool :=
  if lead = 0xF0 then within 0x90 0xBF b
  else if lead = 0xF4 then within 0x80 0x8F b
  else continues b

/-- The six payload bits of a continuation byte. -/
def low6 (b : UInt8) : Nat := b.toNat % 64

/-- The character of a two-byte sequence. -/
def char2 (a b : UInt8) : Char := Char.ofNat (a.toNat % 32 * 64 + low6 b)

/-- The character of a three-byte sequence. -/
def char3 (a b c : UInt8) : Char := Char.ofNat (a.toNat % 16 * 4096 + low6 b * 64 + low6 c)

/-- The character of a four-byte sequence. -/
def char4 (a b c d : UInt8) : Char :=
  Char.ofNat (a.toNat % 8 * 262144 + low6 b * 4096 + low6 c * 64 + low6 d)

/-- Reads characters from bytes that stand at offset `pos` of the whole. -/
def scan (pos : Nat) : Bytes → Except Fault (List Char)
  | [] => .ok []
  | a :: rest =>
    if a < 0x80 then
      (Char.ofNat a.toNat :: ·) <$> scan (pos + 1) rest
    -- `0xC0` and `0xC1` would write an ASCII character in two bytes
    else if within 0xC2 0xDF a then
      match rest with
      | [] => .error ⟨pos, none⟩
      | b :: rest =>
        if continues b then (char2 a b :: ·) <$> scan (pos + 2) rest else .error ⟨pos, some 1⟩
    else if within 0xE0 0xEF a then
      match rest with
      | [] => .error ⟨pos, none⟩
      | b :: rest =>
        if !secondOfThree a b then .error ⟨pos, some 1⟩ else
        match rest with
        | [] => .error ⟨pos, none⟩
        | c :: rest =>
          if continues c then (char3 a b c :: ·) <$> scan (pos + 3) rest else .error ⟨pos, some 2⟩
    -- with a leading byte above `0xF4` the number would be above that of the last character
    else if within 0xF0 0xF4 a then
      match rest with
      | [] => .error ⟨pos, none⟩
      | b :: rest =>
        if !secondOfFour a b then .error ⟨pos, some 1⟩ else
        match rest with
        | [] => .error ⟨pos, none⟩
        | c :: rest =>
          if !continues c then .error ⟨pos, some 2⟩ else
          match rest with
          | [] => .error ⟨pos, none⟩
          | d :: rest =>
            if continues d then (char4 a b c d :: ·) <$> scan (pos + 4) rest
            else .error ⟨pos, some 3⟩
    else
      .error ⟨pos, some 1⟩

/-- The text that the bytes spell. -/
def decode (bytes : Bytes) : Except Fault String := String.ofList <$> scan 0 bytes

end Utf8

end PathSpace.Text
