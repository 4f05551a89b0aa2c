import PathSpace.Json.Record
import PathSpace.Time.Calendar
/-! # Timestamps

A timestamp is a time, in units of 2⁻³² seconds since 1970, with the identity of the
clock that read it.  Timestamps are ordered by time, and at equal times by clock, so
two clocks never give the same timestamp.

* `Timestamp.ofInstant` cuts a wall-clock time down to the unit;
* `Timestamp.seconds` and `Timestamp.nanos` give it back in decimal units.
-/

namespace PathSpace

/-- A reading of the wall clock: nanoseconds since the start of 1970. -/
structure Instant where
  nanos : Int
  deriving DecidableEq, Repr

namespace Instant

/-- Nanoseconds in a second. -/
def nanosPerSecond : Nat := 1000000000

/-- The instant `nanos` after a whole number of seconds; `nanos` may exceed a second. -/
def ofSeconds (seconds : Int) (nanos : Nat) : Instant := ⟨seconds * nanosPerSecond + nanos⟩

end Instant

/-- The identity of a clock. -/
abbrev ClockId := Vector UInt8 16

/-- The identity that no clock has. -/
def ClockId.zero : ClockId := Vector.replicate 16 0

/-- A time together with the clock that read it. -/
structure Timestamp where
  /-- The time in units of 2⁻³² seconds. -/
  time : UInt64
  clock : ClockId
  deriving DecidableEq, Repr

namespace Timestamp

instance : Ord Timestamp := ⟨compareLex (compareOn time) (compareOn clock)⟩

instance : Std.TransOrd Timestamp :=
  inferInstanceAs (Std.TransCmp (compareLex (compareOn time) (compareOn clock)))

/-- Units of time in a second. -/
def unitsPerSecond : Nat := 1 <<< 32

/-- The time of an instant: seconds modulo 2³² and the part of a second, rounded down.  An
instant before 1970 has time zero. -/
def timeOfInstant (t : Instant) : UInt64 :=
  let nanos := t.nanos.toNat
  let seconds := nanos / Instant.nanosPerSecond % unitsPerSecond
  let part := nanos % Instant.nanosPerSecond * unitsPerSecond / Instant.nanosPerSecond
  UInt64.ofNat (seconds * unitsPerSecond + part)

/-- What a clock stamps on an instant. -/
def ofInstant (t : Instant) (clock : ClockId) : Timestamp := ⟨timeOfInstant t, clock⟩

/-- A stand-in for a missing timestamp, stamped by no clock. -/
def synthesize (t : Instant) : Timestamp := ofInstant t .zero

/-- Whether no clock stamped this. -/
def isSynthesized (t : Timestamp) : Bool := t.clock == ClockId.zero

/-- Whether `a` comes strictly before `b`. -/
def before (a b : Timestamp) : Bool := compare a b == .lt

/-- The whole seconds. -/
def seconds (t : Timestamp) : Nat := t.time.toNat / unitsPerSecond

/-- The rest of the second in nanoseconds, rounded down. -/
def nanos (t : Timestamp) : Nat :=
  t.time.toNat % unitsPerSecond * Instant.nanosPerSecond / unitsPerSecond

/-- The instant that a timestamp stands for. -/
def toInstant (t : Timestamp) : Instant := .ofSeconds t.seconds t.nanos

/-- That instant as a calendar gives it, which is asked for the seconds and the nanoseconds beyond
them.  A moment that the calendar does not have is replaced by the start of 1970. -/
def dateTime (moment? : Int → Nat → Option Instant) (t : Timestamp) : Instant :=
  (moment? t.seconds t.nanos).getD (.ofSeconds 0 0)

/-- The moment and the clock. -/
def text (t : Timestamp) : String :=
  Calendar.momentText t.seconds t.nanos ++ "/" ++ Text.Hex.encode t.clock.toList

/-- A timestamp as a document. -/
def toJson (t : Timestamp) : Json :=
  .object [("time", .number (.unsigned t.time)),
    ("clock_id", .array (t.clock.toList.map fun b => .ofNat b.toNat))]

/-- Reads the identity of a clock: sixteen bytes. -/
def clockOfJson? (j : Json) : Option ClockId := do
  let bytes ← Json.list? (Json.below? 256) j
  if h : bytes.length = 16 then
    some ⟨(bytes.map UInt8.ofNat).toArray, by simp [h]⟩
  else
    none

/-- The fields of a timestamp. -/
def shape : Json.Shape := .record [("time", .any), ("clock_id", .any)]

/-- Reads a timestamp from a document. -/
def ofJson? (j : Json) : Option Timestamp := do
  let s ← Json.slots? false shape j
  return ⟨UInt64.ofNat (← s.required 0 (Json.below? UInt64.size)), ← s.required 1 clockOfJson?⟩

end Timestamp

end PathSpace
