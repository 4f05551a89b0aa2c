import PathSpace.Time.Timestamp
/-! # A monotonic clock

The clock follows the wall clock, except that it never stands still and never goes back:
each reading is at least one unit later than the one before.
-/

namespace PathSpace

/-- A clock with the last time that it gave. -/
structure Clock where
  id : ClockId
  last : UInt64 := 0
  deriving DecidableEq, Repr

namespace Clock

/-- Reads the clock while the wall shows `wall`. -/
def now (c : Clock) (wall : Instant) : Timestamp × Clock :=
  let time := max (Timestamp.timeOfInstant wall) (c.last + 1)
  (⟨time, c.id⟩, { c with last := time })

end Clock

end PathSpace
