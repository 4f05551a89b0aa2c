import PathSpace.Text.Utf8
/-! # Hexadecimal text

Bytes are written as two lower-case digits each, without a sign or separator.
-/

namespace PathSpace.Text.Hex

/-- The digit of a number below sixteen. -/
def digit (n : Nat) : Char :=
  if n < 10 then Char.ofNat (48 + n) else Char.ofNat (87 + n)

/-- The value of a digit of either case. -/
def digit? (c : Char) : Option Nat :=
  if '0' ≤ c ∧ c ≤ '9' then some (c.toNat - 48)
  else if 'a' ≤ c ∧ c ≤ 'f' then some (c.toNat - 87)
  else if 'A' ≤ c ∧ c ≤ 'F' then some (c.toNat - 55)
  else none

/-- The two digits of a byte. -/
def byteDigits (b : UInt8) : List Char := [digit (b.toNat / 16), digit (b.toNat % 16)]

/-- The digits of all bytes in order. -/
def encode (bytes : Bytes) : String := String.ofList (bytes.flatMap byteDigits)

/-- Reads pairs of digits. -/
def pairs? : List Char → Option Bytes
  | [] => some []
  | a :: b :: rest => do
    let hi ← digit? a
    let lo ← digit? b
    let bytes ← pairs? rest
    some (UInt8.ofNat (hi * 16 + lo) :: bytes)
  | [_] => none

/-- The bytes that a text of digit pairs stands for. -/
def decode? (s : String) : Option Bytes := pairs? s.toList

/-- A byte as `0x` and two digits. -/
def flag (b : UInt8) : String := "0x" ++ String.ofList (byteDigits b)

/-- The last `width` digits of a number. -/
def fixed (width n : Nat) : List Char :=
  match width with
  | 0 => []
  | w + 1 => fixed w (n / 16) ++ [digit (n % 16)]

end PathSpace.Text.Hex
