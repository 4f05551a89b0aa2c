import PathSpace.Json.Basic
/-! # Words, numbers and strings of JSON text

Each function takes what it reads from the start of a text and gives the text behind it.  A
refused text gives the reason and the place.  Some reasons are found at the character that was
looked at, others behind the last character that was taken; `Stop` says how many bytes lie
between the two.
-/

namespace PathSpace.Json

/-- Why a text is no document. -/
inductive Reason where
  | eofInList
  | eofInObject
  | eofInString
  | eofInValue
  | expectedColon
  | expectedListEnd
  | expectedObjectEnd
  | expectedIdent
  | expectedValue
  | invalidEscape
  | invalidNumber
  | numberOutOfRange
  | controlCharacter
  | keyNotString
  | loneSurrogate
  | trailingComma
  | trailingCharacters
  | unexpectedHexEnd
  | tooDeep
  deriving DecidableEq, Repr

/-- The wording of a reason. -/
def Reason.message : Reason → String
  | .eofInList => "EOF while parsing a list"
  | .eofInObject => "EOF while parsing an object"
  | .eofInString => "EOF while parsing a string"
  | .eofInValue => "EOF while parsing a value"
  | .expectedColon => "expected `:`"
  | .expectedListEnd => "expected `,` or `]`"
  | .expectedObjectEnd => "expected `,` or `\x7d`"
  | .expectedIdent => "expected ident"
  | .expectedValue => "expected value"
  | .invalidEscape => "invalid escape"
  | .invalidNumber => "invalid number"
  | .numberOutOfRange => "number out of range"
  | .controlCharacter => "control character (\\u0000-\\u001F) found while parsing a string"
  | .keyNotString => "key must be a string"
  | .loneSurrogate => "lone leading surrogate in hex escape"
  | .trailingComma => "trailing comma"
  | .trailingCharacters => "trailing characters"
  | .unexpectedHexEnd => "unexpected end of hex escape"
  | .tooDeep => "recursion limit exceeded"

/-- Where reading stopped: the reason, and the text that was still unread. -/
structure Stop where
  reason : Reason
  /-- The unread text. -/
  rest : List Char
  /-- How many bytes of the unread text lie before the place. -/
  ahead : Nat
  deriving DecidableEq, Repr

/-- What was read, and the text behind it. -/
abbrev Taken (α : Type) := α × List Char

/-- Stops at the next character, whose first byte counts as seen. -/
def stopAt (reason : Reason) (rest : List Char) : Except Stop α := .error ⟨reason, rest, 1⟩

/-- Stops behind the last character taken. -/
def stopBehind (reason : Reason) (rest : List Char) : Except Stop α := .error ⟨reason, rest, 0⟩

/-- Whether a character may stand between tokens. -/
def isBlank (c : Char) : Bool := c = ' ' || c = '\n' || c = '\t' || c = '\r'

/-- The text without its leading blanks. -/
def skipBlanks (text : List Char) : List Char := text.dropWhile isBlank

/-! ## Words and numbers -/

/-- Takes the rest of a fixed word. -/
def takeWord (word : List Char) (value : Json) (text : List Char) : Except Stop (Taken Json) :=
  match word, text with
  | [], text => .ok (value, text)
  | _ :: _, [] => stopBehind .eofInValue []
  | w :: word, c :: rest =>
    if w = c then takeWord word value rest else stopAt .expectedIdent (c :: rest)

/-- The largest unsigned integer. -/
def maxUnsigned : Nat := UInt64.size - 1

/-- The largest exponent that is kept exactly. -/
def maxExponent : Nat := 2147483647

/-- The value of `significand · 10 ^ exponent`: the significand is rounded first, then the
product with or the quotient by the power of ten.  Powers above `10 ^ 308` are taken in two. -/
def scaleByTen (negative : Bool) (significand : Nat) (exponent : Int) (rest : List Char) :
    Except Stop Decimal.Binary64 :=
  let start := Decimal.Binary64.ofNat significand
  let signed (x : Decimal.Binary64) := if negative then x.negate else x
  if start.isZero then .ok (signed start) else
  let power (n : Nat) := Decimal.Binary64.ofDecimal false 1 n
  match exponent with
  | .ofNat n =>
    if 308 < n then stopBehind .numberOutOfRange rest else
    let x := start.mul (power n)
    if x.isInfinite then stopBehind .numberOutOfRange rest else .ok (signed x)
  | .negSucc n =>
    let n := n + 1
    if n ≤ 308 then .ok (signed (start.div (power n))) else
    let once := start.div (power 308)
    if n ≤ 616 then .ok (signed (if once.isZero then once else once.div (power (n - 308))))
    else .ok (signed (Decimal.Binary64.zero false))

/-- Takes digits into a significand as long as it stays within 64 bits; returns the
significand, the number of digits taken, and whether a digit was left over. -/
def takeSignificand (significand taken : Nat) : List Char → Nat × Nat × Bool × List Char
  | [] => (significand, taken, false, [])
  | c :: rest =>
    match Decimal.digit? c with
    | none => (significand, taken, false, c :: rest)
    | some d =>
      let next := significand * 10 + d
      if maxUnsigned < next then (significand, taken, true, c :: rest)
      else takeSignificand next (taken + 1) rest

/-- Takes the digits of an exponent; `none` when they pass the largest one, together with the
text behind the digit that did. -/
def takeExponentDigits (n : Nat) : List Char → Option Nat × List Char
  | [] => (some n, [])
  | c :: rest =>
    match Decimal.digit? c with
    | none => (some n, c :: rest)
    | some d =>
      let next := n * 10 + d
      if maxExponent < next then (none, rest) else takeExponentDigits next rest

/-- The exponent behind `e`: an optional sign and at least one digit. -/
def takeExponent (negative : Bool) (significand : Nat) (start : Int) (text : List Char) :
    Except Stop (Taken JsonNumber) :=
  let (down, text) :=
    match text with
    | '+' :: rest => (false, rest)
    | '-' :: rest => (true, rest)
    | rest => (false, rest)
  match text with
  | [] => stopBehind .eofInValue []
  | c :: rest =>
    if !Decimal.isDigit c then stopAt .invalidNumber (c :: rest) else
    match takeExponentDigits 0 (c :: rest) with
    | (some n, rest) => do
      let x ← scaleByTen negative significand (if down then start - n else start + n) rest
      return (.float x, rest)
    | (none, rest) =>
      -- the number is too large, unless the exponent points down or all digits are zeros
      if significand ≠ 0 ∧ !down then stopBehind .numberOutOfRange rest
      else .ok (.float (Decimal.Binary64.zero negative), rest.dropWhile Decimal.isDigit)

/-- What follows a significand: an exponent, or nothing. -/
def finishFraction (negative : Bool) (significand : Nat) (exponent : Int) (text : List Char) :
    Except Stop (Taken JsonNumber) :=
  match text with
  | 'e' :: rest | 'E' :: rest => takeExponent negative significand exponent rest
  | rest => do
    let x ← scaleByTen negative significand exponent rest
    return (.float x, rest)

/-- The digits behind a point; those beyond 64 bits of significand are passed over. -/
def takeFraction (negative : Bool) (significand : Nat) (exponent : Int) (text : List Char) :
    Except Stop (Taken JsonNumber) :=
  let (significand, taken, full, rest) := takeSignificand significand 0 text
  if full then
    finishFraction negative significand (exponent - taken) (rest.dropWhile Decimal.isDigit)
  else if taken = 0 then
    match rest with
    | [] => stopAt .eofInValue []
    | rest => stopAt .invalidNumber rest
  else
    finishFraction negative significand (exponent - taken) rest

/-- An integer of more than 64 bits: each further digit counts one power of ten. -/
def takeLong (negative : Bool) (significand : Nat) (text : List Char) : Except Stop (Taken JsonNumber) :=
  let (ds, rest) := text.span Decimal.isDigit
  let exponent : Int := ds.length
  match rest with
  | '.' :: rest => takeFraction negative significand exponent rest
  | rest => finishFraction negative significand exponent rest

/-- A number behind its sign. -/
def takeNumber (negative : Bool) (text : List Char) : Except Stop (Taken JsonNumber) :=
  match text with
  | [] => stopBehind .eofInValue []
  | c :: rest =>
    match Decimal.digit? c with
    | none => stopAt .invalidNumber (c :: rest)
    | some first =>
      if first = 0 ∧ (rest.head?.map Decimal.isDigit).getD false then
        stopAt .invalidNumber rest
      else
        let (significand, _, full, rest) :=
          if first = 0 then (0, 0, false, rest) else takeSignificand first 1 rest
        if full then takeLong negative significand rest else
        match rest with
        | '.' :: rest => takeFraction negative significand 0 rest
        | 'e' :: rest | 'E' :: rest => takeExponent negative significand 0 rest
        | rest =>
          if !negative then .ok (.unsigned (UInt64.ofNat significand), rest)
          -- `-0` and what lies below `-2⁶³` are no integers of 64 bits
          else if significand = 0 ∨ 1 <<< 63 < significand then
            .ok (.float (Decimal.Binary64.ofNat significand).negate, rest)
          else .ok (.negative (Int64.ofInt (-(significand : Int))), rest)

/-! ## Strings -/

/-- The number of bytes of a text. -/
def byteLength (text : List Char) : Nat := text.foldl (fun n c => n + c.utf8Size) 0

/-- The number of four hexadecimal digits; four other bytes are refused together. -/
def takeHex4 (text : List Char) : Except Stop (Taken Nat) :=
  if byteLength (text.take 4) < 4 then stopBehind .eofInString [] else
  match text with
  | a :: b :: c :: d :: rest =>
    match Text.Hex.digit? a, Text.Hex.digit? b, Text.Hex.digit? c, Text.Hex.digit? d with
    | some a, some b, some c, some d => .ok (((a * 16 + b) * 16 + c) * 16 + d, rest)
    | _, _, _, _ => .error ⟨.invalidEscape, text, 4⟩
  | _ => .error ⟨.invalidEscape, text, 4⟩

/-- The character of `\u` escapes: one unit, or a pair that stands for one character. -/
def takeUnicode (text : List Char) : Except Stop (Taken Char) := do
  let (unit, rest) ← takeHex4 text
  if 0xDC00 ≤ unit ∧ unit ≤ 0xDFFF then stopBehind .loneSurrogate rest
  -- between the two lie the first halves of pairs, behind which a second half must follow
  else if unit < 0xD800 ∨ 0xDBFF < unit then return (Char.ofNat unit, rest)
  else
    match rest with
    | [] => stopBehind .eofInString []
    | '\\' :: rest =>
      match rest with
      | [] => stopBehind .eofInString []
      | 'u' :: rest =>
        let (low, rest) ← takeHex4 rest
        if low < 0xDC00 ∨ 0xDFFF < low then stopBehind .loneSurrogate rest
        else
          return (Char.ofNat ((unit - 0xD800) * 1024 + (low - 0xDC00) + 0x10000), rest)
      | rest => stopAt .unexpectedHexEnd rest
    | rest => stopAt .unexpectedHexEnd rest

/-- The character behind a backslash. -/
def takeEscape (text : List Char) : Except Stop (Taken Char) :=
  match text with
  | [] => stopBehind .eofInString []
  | c :: rest =>
    match c with
    | '"' => .ok ('"', rest)
    | '\\' => .ok ('\\', rest)
    | '/' => .ok ('/', rest)
    | 'b' => .ok (Char.ofNat 8, rest)
    | 'f' => .ok (Char.ofNat 12, rest)
    | 'n' => .ok ('\n', rest)
    | 'r' => .ok ('\r', rest)
    | 't' => .ok ('\t', rest)
    | 'u' => takeUnicode rest
    | _ => stopAt .invalidEscape (c :: rest)

/-- The characters up to the closing quote.  The fuel is the length of the text. -/
def takeChars (fuel : Nat) (taken : List Char) (text : List Char) : Except Stop (Taken String) :=
  match fuel, text with
  | _, [] => stopBehind .eofInString []
  | 0, text => stopBehind .eofInString text
  | fuel + 1, c :: rest =>
    if c = '"' then .ok (String.ofList taken.reverse, rest)
    else if c = '\\' then do
      let (c, rest) ← takeEscape rest
      takeChars fuel (c :: taken) rest
    else if c.toNat < 32 then stopAt .controlCharacter (c :: rest)
    else takeChars fuel (c :: taken) rest

/-- A string behind its opening quote. -/
def takeString (text : List Char) : Except Stop (Taken String) := takeChars (text.length + 1) [] text

end PathSpace.Json
