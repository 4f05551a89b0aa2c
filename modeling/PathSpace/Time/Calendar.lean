import PathSpace.Decimal.Integer
/-! # The calendar

Seconds since 1970 as a date and a time of day.  Years are counted from March, so that
the leap day is the last day of a year.
-/

namespace PathSpace.Calendar

/-- A day of the proleptic Gregorian calendar. -/
structure Date where
  year : Nat
  month : Nat
  day : Nat
  deriving DecidableEq, Repr

/-- The date that lies the given number of days after the first of January 1970. -/
def dateOfDay (days : Nat) : Date :=
  let sinceMarch := days + 719468
  let era := sinceMarch / 146097
  let dayOfEra := sinceMarch % 146097
  let yearOfEra := (dayOfEra - dayOfEra / 1460 + dayOfEra / 36524 - dayOfEra / 146096) / 365
  let dayOfYear := dayOfEra - (365 * yearOfEra + yearOfEra / 4 - yearOfEra / 100)
  let monthFromMarch := (5 * dayOfYear + 2) / 153
  let day := dayOfYear - (153 * monthFromMarch + 2) / 5 + 1
  let month := if monthFromMarch < 10 then monthFromMarch + 3 else monthFromMarch - 9
  ⟨era * 400 + yearOfEra + (if month ≤ 2 then 1 else 0), month, day⟩

/-- The moment `seconds` and `nanos` after the start of 1970, as date, time of day with nine
places, and the zone letter. -/
def momentText (seconds nanos : Nat) : String :=
  let date := dateOfDay (seconds / 86400)
  let ofDay := seconds % 86400
  let two := Decimal.padded 2
  String.ofList <|
    Decimal.padded 4 date.year ++ '-' :: two date.month ++ '-' :: two date.day ++
    'T' :: two (ofDay / 3600) ++ ':' :: two (ofDay / 60 % 60) ++ ':' :: two (ofDay % 60) ++
    '.' :: Decimal.padded 9 nanos ++ ['Z']

example : dateOfDay 0 = ⟨1970, 1, 1⟩ := by decide
example : dateOfDay 59 = ⟨1970, 3, 1⟩ := by decide
example : dateOfDay 11016 = ⟨2000, 2, 29⟩ := by decide

end PathSpace.Calendar
