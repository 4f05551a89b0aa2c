import PathSpace.Decimal.Integer
import PathSpace.Text.Blank
/-! # Durations in words

A duration is written as a sequence of amounts with units, such as `1h 30min` or `1.5s`.
`Duration.parse?` reads it character by character; `Duration.step` is one character.
Numbers and sums are kept below 2⁶⁴.
-/

namespace PathSpace

/-- A length of time in nanoseconds. -/
structure Duration where
  total : Nat
  deriving DecidableEq, Repr, Inhabited

namespace Duration

/-- Nanoseconds in a second. -/
def nanosPerSecond : Nat := 1000000000

/-- A number of milliseconds. -/
def ofMillis (n : Nat) : Duration := ⟨n * 1000000⟩

/-- The whole seconds. -/
def seconds (d : Duration) : Nat := d.total / nanosPerSecond

/-- The nanoseconds beyond the whole seconds. -/
def nanos (d : Duration) : Nat := d.total % nanosPerSecond

/-- The unit of an amount.  Hours and longer units count in seconds. -/
inductive Measure where
  /-- So many nanoseconds. -/
  | nanos (n : Nat)
  /-- So many seconds, of which a part counts in nanoseconds. -/
  | finely (seconds : Nat)
  /-- So many seconds, of which a part counts in seconds. -/
  | coarsely (seconds : Nat)
  deriving DecidableEq, Repr

/-- The names of the units. -/
def measures : List (List String × Measure) := [
  (["nanos", "nsec", "ns"], .nanos 1),
  (["usec", "us", "µs"], .nanos 1000),
  (["millis", "msec", "ms"], .nanos 1000000),
  (["seconds", "second", "secs", "sec", "s"], .finely 1),
  (["minutes", "minute", "min", "mins", "m"], .finely 60),
  (["hours", "hour", "hrs", "hr", "h"], .coarsely 3600),
  (["days", "day", "d"], .coarsely 86400),
  (["weeks", "week", "wk", "wks", "w"], .coarsely 604800),
  (["months", "month", "M"], .coarsely 2630016),
  (["years", "year", "yr", "yrs", "y"], .coarsely 31557600)]

/-- The unit of that name. -/
def measure? (name : String) : Option Measure :=
  (measures.find? (·.1.contains name)).map (·.2)

/-- A number, provided that it fits into 64 bits. -/
def fitting? (n : Nat) : Option Nat := if n < UInt64.size then some n else none

/-- The digits behind the point as a quotient. -/
structure Fraction where
  numerator : Nat
  denominator : Nat
  deriving DecidableEq, Repr

/-- Appends a digit behind the point. -/
def Fraction.push? (f : Fraction) (d : Nat) : Option Fraction := do
  return ⟨← fitting? (f.numerator * 10 + d), ← fitting? (f.denominator * 10)⟩

/-- Adds seconds and nanoseconds. -/
def add? (total : Nat) (seconds nanos : Nat) : Option Nat := do
  let _ ← fitting? (total % nanosPerSecond + nanos)
  let sum := total + seconds * nanosPerSecond + nanos
  let _ ← fitting? (sum / nanosPerSecond)
  return sum

/-- Adds a whole number of units. -/
def addWhole? (total n : Nat) : Measure → Option Nat
  | .nanos k => do add? total 0 (← fitting? (n * k))
  | .finely k => do add? total (← fitting? (n * k)) 0
  | .coarsely k => do add? total (← fitting? (n * k)) 0

/-- A fraction of `n`, provided that it is a whole number. -/
def Fraction.of? (f : Fraction) (n : Nat) : Option Nat := do
  let product ← fitting? (f.numerator * n)
  if product % f.denominator = 0 then some (product / f.denominator) else none

/-- Adds a part of a unit, which must be a whole number of the unit that parts count in;
nanoseconds have no parts. -/
def addPart? (total : Nat) (f : Fraction) : Measure → Option Nat
  | .nanos k => if k = 1 then none else do add? total 0 (← f.of? k)
  | .finely k => do add? total 0 (← f.of? (k * nanosPerSecond))
  | .coarsely k => do add? total (← f.of? k) 0

/-- Adds an amount of the unit with the given name. -/
def addAmount? (total n : Nat) (f : Option Fraction) (name : List Char) : Option Nat := do
  let unit ← measure? (String.ofList name)
  let total ← addWhole? total n unit
  match f with
  | none => some total
  | some f => addPart? total f unit

/-- What is being read. -/
inductive Phase where
  /-- Nothing yet; `some` says that an amount came before. -/
  | between (any : Bool)
  /-- The digits of an amount. -/
  | whole (n : Nat)
  /-- The digits behind the point. -/
  | fraction (n : Nat) (f : Fraction)
  /-- The letters of a unit, the last one first. -/
  | unit (n : Nat) (f : Option Fraction) (letters : List Char)

/-- Whether a unit's name may have this letter. -/
def isUnitLetter (c : Char) : Bool := c.isAlpha || c == 'µ'

/-- Reads one character, given the sum of the amounts before. -/
def step : Nat × Phase → Char → Option (Nat × Phase)
  | (total, .between any), c =>
    match Decimal.digit? c with
    | some d => some (total, .whole d)
    | none => if Text.isBlank c then some (total, .between any) else none
  | (total, .whole n), c =>
    match Decimal.digit? c with
    | some d => (fitting? (n * 10 + d)).map fun n => (total, .whole n)
    | none =>
      if Text.isBlank c then some (total, .whole n)
      else if isUnitLetter c then some (total, .unit n none [c])
      else if c = '.' then some (total, .fraction n ⟨0, 1⟩)
      else none
  | (total, .fraction n f), c =>
    match Decimal.digit? c with
    | some d => (f.push? d).map fun f => (total, .fraction n f)
    | none =>
      if Text.isBlank c then some (total, .fraction n f)
      -- a point without digits behind it is refused
      else if isUnitLetter c ∧ f.denominator ≠ 1 then some (total, .unit n (some f) [c])
      else none
  | (total, .unit n f letters), c =>
    match Decimal.digit? c with
    -- a digit ends the name of the unit: no blank is needed before the next amount
    | some d => (addAmount? total n f letters.reverse).map fun total => (total, .whole d)
    | none =>
      if Text.isBlank c then
        (addAmount? total n f letters.reverse).map fun total => (total, .between true)
      else if isUnitLetter c then some (total, .unit n f (c :: letters))
      else none

/-- The sum once the text has ended. -/
def finish : Nat × Phase → Option Nat
  | (total, .between any) => if any then some total else none
  | (total, .unit n f letters) => addAmount? total n f letters.reverse
  | _ => none

/-- Reads a duration; a bare `0` needs no unit. -/
def parse? (s : String) : Option Duration :=
  if s = "0" then some ⟨0⟩
  else ((s.toList.foldlM step (0, .between false)).bind finish).map (⟨·⟩)

end Duration

end PathSpace
