import PathSpace.Json.Token
/-! # Passing over JSON text

`skipValue` passes over a value of which nothing is wanted.  Only its form counts: brackets may
lie as deep as they like, numbers may be as large as they like, and escapes of half a character
stand for nothing.  The brackets that are open are kept in a list.
-/

namespace PathSpace.Json

/-- What a bracket opens. -/
inductive Enclosure where
  | list
  | object
  deriving DecidableEq, Repr

/-- The text behind the digits at its start, of which there must be one. -/
def skipDigits (text : List Char) : Except Stop (List Char) :=
  match text with
  | [] => stopBehind .eofInValue []
  | c :: rest =>
    if Decimal.isDigit c then .ok (rest.dropWhile Decimal.isDigit)
    else stopAt .invalidNumber (c :: rest)

/-- The text behind an exponent, if there is one. -/
def skipExponent (text : List Char) : Except Stop (List Char) :=
  match text with
  | 'e' :: rest | 'E' :: rest =>
    match rest with
    | '+' :: rest | '-' :: rest => skipDigits rest
    | rest => skipDigits rest
  | rest => .ok rest

/-- The text behind a number without its sign. -/
def skipNumber (text : List Char) : Except Stop (List Char) := do
  let rest ← skipDigits text
  -- the digits were taken all at once, so a needless zero at the start is found only here
  if text.head? = some '0' ∧ text.tail.head?.any Decimal.isDigit then
    stopAt .invalidNumber text.tail
  else
    match rest with
    | '.' :: rest => skipExponent (← skipDigits rest)
    | rest => skipExponent rest

/-- The text behind a string whose opening quote has been taken; `escaped` says that a backslash
stands before it. -/
def skipString (escaped : Bool) : List Char → Except Stop (List Char)
  | [] => stopBehind .eofInString []
  | c :: rest =>
    if escaped then
      if c = 'u' then do
        -- the four digits are only looked at; being plain characters they are passed over later
        let _ ← takeHex4 rest
        skipString false rest
      else if ['"', '\\', '/', 'b', 'f', 'n', 'r', 't'].contains c then skipString false rest
      else stopAt .invalidEscape (c :: rest)
    else if c = '"' then .ok rest
    else if c = '\\' then skipString true rest
    else if c.toNat < 32 then stopAt .controlCharacter (c :: rest)
    else skipString false rest

/-- The text behind the name of a member and its colon. -/
def skipName (text : List Char) : Except Stop (List Char) :=
  match skipBlanks text with
  | [] => stopAt .eofInObject []
  | '"' :: rest => do
    match skipBlanks (← skipString false rest) with
    | [] => stopAt .eofInObject []
    | ':' :: rest => return rest
    | rest => stopAt .expectedColon rest
  | rest => stopAt .keyNotString rest

/-- Closes brackets behind a value.  Gives those that stay open, and the text of the next value
in the innermost of them. -/
def closeEnclosures : List Enclosure → List Char → Except Stop (List Enclosure × List Char)
  | [], text => .ok ([], text)
  | .list :: outer, text =>
    match skipBlanks text with
    | [] => stopAt .eofInList []
    | ',' :: rest => .ok (.list :: outer, rest)
    | ']' :: rest => closeEnclosures outer rest
    | rest => stopAt .expectedListEnd rest
  | .object :: outer, text =>
    match skipBlanks text with
    | [] => stopAt .eofInObject []
    | ',' :: rest => do return (.object :: outer, ← skipName rest)
    | '\x7d' :: rest => closeEnclosures outer rest
    | rest => stopAt .expectedObjectEnd rest

/-- Takes the start of a value: a whole one, or a bracket.  Gives the brackets that stay open,
and the text behind. -/
def skipStart (opened : List Enclosure) (text : List Char) :
    Except Stop (List Enclosure × List Char) :=
  match skipBlanks text with
  | [] => stopAt .eofInValue []
  | c :: rest =>
    match c with
    | 'n' => do closeEnclosures opened (← takeWord ['u', 'l', 'l'] .null rest).2
    | 't' => do closeEnclosures opened (← takeWord ['r', 'u', 'e'] .null rest).2
    | 'f' => do closeEnclosures opened (← takeWord ['a', 'l', 's', 'e'] .null rest).2
    | '-' => do closeEnclosures opened (← skipNumber rest)
    | '"' => do closeEnclosures opened (← skipString false rest)
    | '[' =>
      match skipBlanks rest with
      | ']' :: rest => closeEnclosures opened rest
      | rest => .ok (.list :: opened, rest)
    | '\x7b' =>
      match skipBlanks rest with
      | '\x7d' :: rest => closeEnclosures opened rest
      | rest => do return (.object :: opened, ← skipName rest)
    | c =>
      if Decimal.isDigit c then do closeEnclosures opened (← skipNumber (c :: rest))
      else stopAt .expectedValue (c :: rest)

/-- Passes over values until all brackets are closed.  Each of them takes a character. -/
def skipValues : (steps : Nat) → (opened : List Enclosure) → List Char → Except Stop (List Char)
  | 0, _, text => stopAt .expectedValue text
  | steps + 1, opened, text =>
    match skipStart opened text with
    | .error e => .error e
    | .ok ([], rest) => .ok rest
    | .ok (opened, rest) => skipValues steps opened rest

/-- The text behind a value. -/
def skipValue (text : List Char) : Except Stop (List Char) := skipValues (text.length + 1) [] text

end PathSpace.Json
