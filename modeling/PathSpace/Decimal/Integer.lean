/-! # Decimal integers

`digits` writes a natural number, `readInt64` reads a signed 64-bit integer and
`readNat?` an unsigned number of unbounded size.  A text is read from left to
right, and the first character that cannot be taken decides the fault.
-/

namespace PathSpace.Decimal

/-- The value of a decimal digit. -/
def digit? (c : Char) : Option Nat :=
  if '0' ≤ c ∧ c ≤ '9' then some (c.toNat - 48) else none

/-- Whether `c` is a decimal digit. -/
def isDigit (c : Char) : Bool := (digit? c).isSome

/-- The digit of a number below ten. -/
def digitChar (n : Nat) : Char := Char.ofNat (48 + n)

/-- The decimal digits of a number, most significant first, without leading zeros. -/
def digits (n : Nat) : List Char :=
  if _h : n < 10 then [digitChar n] else digits (n / 10) ++ [digitChar (n % 10)]
termination_by n
decreasing_by omega

/-- A natural number in decimal. -/
def natText (n : Nat) : String := String.ofList (digits n)

/-- An integer in decimal, with a sign only if it is negative. -/
def intText (i : Int) : String :=
  match i with
  | .ofNat n => natText n
  | .negSucc n => "-" ++ natText (n + 1)

/-- At least `width` digits of `n`, with leading zeros. -/
def padded (width n : Nat) : List Char :=
  let ds := digits n
  List.replicate (width - ds.length) '0' ++ ds

/-- Why a text is not an integer. -/
inductive IntFault where
  /-- There is no character at all. -/
  | empty
  /-- A character is not a digit, or a sign stands alone. -/
  | invalidDigit
  /-- The number is above the largest one. -/
  | tooLarge
  /-- The number is below the smallest one. -/
  | tooSmall
  deriving DecidableEq, Repr

/-- The wording of a fault. -/
def IntFault.message : IntFault → String
  | .empty => "cannot parse integer from empty string"
  | .invalidDigit => "invalid digit found in string"
  | .tooLarge => "number too large to fit in target type"
  | .tooSmall => "number too small to fit in target type"

/-- The largest signed 64-bit integer. -/
def maxInt64 : Int := 9223372036854775807

/-- The smallest signed 64-bit integer. -/
def minInt64 : Int := -9223372036854775808

/-- Appends digits to a number that is not negative, staying at or below the maximum. -/
def readUp (acc : Int) : List Char → Except IntFault Int
  | [] => .ok acc
  | c :: rest =>
    match digit? c with
    | none => .error .invalidDigit
    | some d =>
      let next := acc * 10 + d
      if maxInt64 < next then .error .tooLarge else readUp next rest

/-- Appends digits to a number that is not positive, staying at or above the minimum. -/
def readDown (acc : Int) : List Char → Except IntFault Int
  | [] => .ok acc
  | c :: rest =>
    match digit? c with
    | none => .error .invalidDigit
    | some d =>
      let next := acc * 10 - d
      if next < minInt64 then .error .tooSmall else readDown next rest

/-- Reads an optional sign and one or more digits. -/
def readSigned : List Char → Except IntFault Int
  | [] => .error .empty
  | ['+'] | ['-'] => .error .invalidDigit
  | '+' :: rest => readUp 0 rest
  | '-' :: rest => readDown 0 rest
  | text => readUp 0 text

/-- Reads a signed 64-bit integer. -/
def readInt64 (s : String) : Except IntFault Int64 :=
  Int64.ofInt <$> readSigned s.toList

/-- Appends digits to a number of unbounded size. -/
def appendDigits? (acc : Nat) : List Char → Option Nat
  | [] => some acc
  | c :: rest => (digit? c).bind fun d => appendDigits? (acc * 10 + d) rest

/-- Reads one or more digits. -/
def readNat? : List Char → Option Nat
  | [] => none
  | text => appendDigits? 0 text

end PathSpace.Decimal
