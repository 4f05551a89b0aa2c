import PathSpace.Decimal.Integer
/-! # Binary floating-point numbers of 64 bits

A number is kept as its bits, so that two of them can be told apart and every
rounding is a statement about natural numbers.  `ofRatio` is the nearest number
to a quotient, a half going to the even neighbour; `read` reads decimal text.
-/

namespace PathSpace.Decimal

/-- A 64-bit floating-point number: sign, eleven bits of exponent, 52 bits of fraction. -/
structure Binary64 where
  bits : UInt64
  deriving DecidableEq, Repr, Inhabited

namespace Binary64

/-- The weight of the sign bit. -/
def signWeight : Nat := 1 <<< 63

/-- The bits of positive infinity, which also bound those of the positive finite numbers. -/
def infinityBits : Nat := 2047 <<< 52

/-- A number from its sign and its other 63 bits. -/
def ofParts (negative : Bool) (rest : Nat) : Binary64 :=
  ⟨UInt64.ofNat (if negative then signWeight + rest else rest)⟩

/-- Zero of either sign. -/
def zero (negative : Bool) : Binary64 := ofParts negative 0

/-- Infinity of either sign. -/
def infinity (negative : Bool) : Binary64 := ofParts negative infinityBits

/-- The quiet value that is not a number, with either sign bit. -/
def nan (negative : Bool) : Binary64 := ofParts negative (infinityBits + (1 <<< 51))

/-- Whether the sign bit is set. -/
def isNegative (x : Binary64) : Bool := signWeight ≤ x.bits.toNat

/-- All bits but the sign. -/
def magnitudeBits (x : Binary64) : Nat := x.bits.toNat % signWeight

/-- Whether the value is not a number. -/
def isNaN (x : Binary64) : Bool := infinityBits < x.magnitudeBits

/-- Whether the value is infinite. -/
def isInfinite (x : Binary64) : Bool := x.magnitudeBits == infinityBits

/-- Whether the value is zero. -/
def isZero (x : Binary64) : Bool := x.magnitudeBits == 0

/-- The integer `m` of a finite value `m · 2 ^ q`. -/
def significand (x : Binary64) : Nat :=
  let fraction := x.magnitudeBits % (1 <<< 52)
  if x.magnitudeBits < 1 <<< 52 then fraction else (1 <<< 52) + fraction

/-- The exponent `q` of a finite value `m · 2 ^ q`. -/
def exponent (x : Binary64) : Int :=
  let field : Nat := x.magnitudeBits / (1 <<< 52)
  if field = 0 then -1074 else (field : Int) - 1075

/-- The same value with the other sign. -/
def negate (x : Binary64) : Binary64 := ofParts (!x.isNegative) x.magnitudeBits

/-! ## Rounding -/

/-- The integer nearest to `num / den`, a half going to the even one. -/
def roundHalfEven (num den : Nat) : Nat :=
  let low := num / den
  let rest := num % den
  if 2 * rest < den then low
  else if den < 2 * rest then low + 1
  else low + low % 2

/-- The pair `(a, b)` with `a / b = num / den · 2 ^ (-q)`. -/
def scaled (num den : Nat) (q : Int) : Nat × Nat :=
  match q with
  | .ofNat n => (num, den <<< n)
  | .negSucc n => (num <<< (n + 1), den)

/-- The exponent at which `num / den` has 53 bits, but never one below the least. -/
def fittingExponent (num den : Nat) : Int :=
  let guess : Int := (Nat.log2 num : Int) - (Nat.log2 den : Int) - 52
  let quotient := (scaled num den guess).1 / (scaled num den guess).2
  max (if quotient < 1 <<< 52 then guess - 1 else guess) (-1074)

/-- The number nearest to `num / den`, a half going to the even neighbour. -/
def ofRatio (negative : Bool) (num den : Nat) : Binary64 :=
  if num = 0 then zero negative else
  let q := fittingExponent num den
  let (a, b) := scaled num den q
  -- the leading bit of the significand, and a carry of the rounding, run into the exponent
  let rest := ((q + 1074).toNat <<< 52) + roundHalfEven a b
  if infinityBits ≤ rest then infinity negative else ofParts negative rest

/-- The numerator and denominator of the absolute value of a finite number. -/
def ratio (x : Binary64) : Nat × Nat :=
  match x.exponent with
  | .ofNat n => (x.significand <<< n, 1)
  | .negSucc n => (x.significand, 1 <<< (n + 1))

/-- The rounded product of two finite numbers. -/
def mul (x y : Binary64) : Binary64 :=
  ofRatio (x.isNegative != y.isNegative) (x.ratio.1 * y.ratio.1) (x.ratio.2 * y.ratio.2)

/-- The rounded quotient of two finite numbers, the second not zero. -/
def div (x y : Binary64) : Binary64 :=
  ofRatio (x.isNegative != y.isNegative) (x.ratio.1 * y.ratio.2) (x.ratio.2 * y.ratio.1)

/-- The number nearest to a natural number. -/
def ofNat (n : Nat) : Binary64 := ofRatio false n 1

/-- The number nearest to `m · 10 ^ e`, with exponents out of all range settled first. -/
def ofDecimal (negative : Bool) (m : Nat) (e : Int) : Binary64 :=
  if m = 0 then zero negative else
  let width : Int := (digits m).length
  -- keeps the powers of ten below from growing with the exponent that was written
  if 400 < e + width then infinity negative
  else if e + width < -400 then zero negative
  else
    match e with
    | .ofNat n => ofRatio negative (m * Nat.pow 10 n) 1
    | .negSucc n => ofRatio negative m (Nat.pow 10 (n + 1))

/-! ## Reading -/

/-- Why a text is not a number. -/
inductive Fault where
  /-- There is no character at all. -/
  | empty
  /-- The characters form no number. -/
  | invalid
  deriving DecidableEq, Repr

/-- The wording of a fault. -/
def Fault.message : Fault → String
  | .empty => "cannot parse float from empty string"
  | .invalid => "invalid float literal"

/-- The digits at the start of a text as a number, with their count and the rest. -/
def takeDigits (text : List Char) : List Char × List Char := text.span isDigit

/-- The value of a run of digits. -/
def digitsValue (ds : List Char) : Nat := (appendDigits? 0 ds).getD 0

/-- The exponent part: nothing, or `e`, a sign and at least one digit up to the end. -/
def readExponent? : List Char → Option Int
  | [] => some 0
  | c :: rest =>
    if c = 'e' ∨ c = 'E' then
      let (negative, ds) :=
        match rest with
        | '-' :: ds => (true, ds)
        | '+' :: ds => (false, ds)
        | ds => (false, ds)
      (readNat? ds).map fun n => if negative then -(n : Int) else n
    else none

/-- A number without its sign: digits with at most one point among them, then an exponent. -/
def readUnsigned? (negative : Bool) (text : List Char) : Option Binary64 :=
  let (whole, rest) := takeDigits text
  let (fraction, rest) :=
    match rest with
    | '.' :: rest => takeDigits rest
    | rest => ([], rest)
  if whole.isEmpty && fraction.isEmpty then none else
  (readExponent? rest).map fun e =>
    ofDecimal negative (digitsValue (whole ++ fraction)) (e - fraction.length)

/-- The names of the values that are not finite, in any case. -/
def readNamed? (negative : Bool) (text : List Char) : Option Binary64 :=
  let lower := text.map Char.toLower
  if lower = "inf".toList ∨ lower = "infinity".toList then some (infinity negative)
  else if lower = "nan".toList then some (nan negative)
  else none

/-- Reads an optional sign and a number. -/
def read (s : String) : Except Fault Binary64 :=
  match s.toList with
  | [] => .error .empty
  | text =>
    let (negative, rest) :=
      match text with
      | '-' :: rest => (true, rest)
      | '+' :: rest => (false, rest)
      | rest => (false, rest)
    match (readUnsigned? negative rest) <|> (readNamed? negative rest) with
    | some x => .ok x
    | none => .error .invalid

end Binary64

end PathSpace.Decimal
