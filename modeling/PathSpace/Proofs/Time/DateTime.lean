import PathSpace.Proofs.Time.Stamping
/-!
# Timestamps as date-times

A timestamp is read as a date-time by counting its units in nanoseconds, rounded down.  Stamping
an instant rounds down too, so reading a stamp loses at most one nanosecond, and stamping what was
read loses a few units.  Nothing ever moves forward.

## Key results

- `nanosOfUnits_unitsOfNanos`, `unitsOfNanos_nanosOfUnits_bounds`: what the two ways there and back
  lose
- `dateTime_eq`: a calendar has the moment of every timestamp
- `rereads_dateTime`: what becomes of instants and timestamps
-/

namespace PathSpace

namespace Calendar

/-- The first second of the calendar, when the year −262143 begins. -/
def firstSecond : Int := -8334601228800

/-- The last second of the calendar, when the year 262142 ends. -/
def lastSecond : Int := 8210266876799

example : dateOfDay (lastSecond / 86400).toNat = ⟨262142, 12, 31⟩ := by decide

/-- A calendar has every nanosecond of its years. -/
def HasMoments (moment? : Int → Nat → Option Instant) : Prop :=
  ∀ seconds nanos, firstSecond ≤ seconds → seconds ≤ lastSecond → nanos < Instant.nanosPerSecond →
    moment? seconds nanos = some (.ofSeconds seconds nanos)

/-- The calendar that has no other moments besides these but leap seconds, which take the place of
a second more at the end of a minute. -/
def moment? (seconds : Int) (nanos : Nat) : Option Instant :=
  if firstSecond ≤ seconds ∧ seconds ≤ lastSecond ∧ (nanos < Instant.nanosPerSecond ∨
      seconds % 60 = 59 ∧ nanos < 2 * Instant.nanosPerSecond) then
    some (.ofSeconds seconds nanos)
  else
    none

/-- The calendar has all moments of its range. -/
private theorem hasMoments_moment? : HasMoments moment? := by
  intro seconds nanos hfirst hlast hnanos
  rw [moment?, if_pos ⟨hfirst, hlast, .inl hnanos⟩]

end Calendar

namespace Timestamp

/-! ## There and back -/

/-- So many units in nanoseconds, rounded down. -/
def nanosOfUnits (u : Nat) : Nat := u * Instant.nanosPerSecond / unitsPerSecond

/-- The nanoseconds of a number of units, rounded down. -/
private theorem nanosOfUnits_bounds (u : Nat) :
    nanosOfUnits u * 2 ^ 32 ≤ u * 10 ^ 9 ∧ u * 10 ^ 9 < (nanosOfUnits u + 1) * 2 ^ 32 := by
  rw [nanosOfUnits, unitsPerSecond_eq, nanosPerSecond_eq]
  omega

/-- Less than a second has less than a billion nanoseconds. -/
private theorem nanosOfUnits_lt {u : Nat} (h : u < 2 ^ 32) : nanosOfUnits u < 10 ^ 9 := by
  have hu := nanosOfUnits_bounds u
  omega

/-- More units have no fewer nanoseconds. -/
private theorem nanosOfUnits_mono {u v : Nat} (h : u ≤ v) : nanosOfUnits u ≤ nanosOfUnits v := by
  have hu := nanosOfUnits_bounds u
  have hv := nanosOfUnits_bounds v
  omega

/-- Nanoseconds that are a whole number of units come back, and of all others one is lost. -/
theorem nanosOfUnits_unitsOfNanos (n : Nat) :
    nanosOfUnits (unitsOfNanos n) = if 5 ^ 9 ∣ n then n else n - 1 := by
  have hunits := unitsOfNanos_bounds n
  have hnanos := nanosOfUnits_bounds (unitsOfNanos n)
  split
  · omega
  · next hdvd =>
    -- a nanosecond is 2²³ / 5⁹ units, so these are not a whole number of them
    have hne : n * 2 ^ 23 ≠ unitsOfNanos n * 5 ^ 9 := by
      intro heq
      have hcoprime : Nat.Coprime (5 ^ 9) (2 ^ 23) := Nat.Coprime.pow 9 23 (by decide)
      refine hdvd (hcoprime.dvd_of_dvd_mul_right ?_)
      rw [heq]
      exact Nat.dvd_mul_left _ _
    omega

/-- A nanosecond has less than five units, and a few parts of one. -/
theorem unitsOfNanos_nanosOfUnits_bounds (u : Nat) :
    unitsOfNanos (nanosOfUnits u) ≤ u ∧ u ≤ unitsOfNanos (nanosOfUnits u) + 5 := by
  have hnanos := nanosOfUnits_bounds u
  have hunits := unitsOfNanos_bounds (nanosOfUnits u)
  omega

/-! ## The moment of a timestamp -/

variable {moment? : Int → Nat → Option Instant}

/-- The seconds of a timestamp are its upper half. -/
private theorem seconds_eq (t : Timestamp) : t.seconds = t.time.toNat / 2 ^ 32 := rfl

/-- The nanoseconds of a timestamp are those of its lower half. -/
private theorem nanos_eq (t : Timestamp) : t.nanos = nanosOfUnits (t.time.toNat % 2 ^ 32) := rfl

/-- The seconds of a timestamp fit in half of its bits. -/
private theorem seconds_lt (t : Timestamp) : t.seconds < 2 ^ 32 := by
  have htime := t.time.toNat_lt
  rw [seconds_eq]
  omega

/-- The nanoseconds of a timestamp are less than a second. -/
private theorem nanos_lt (t : Timestamp) : t.nanos < 10 ^ 9 :=
  nanosOfUnits_lt (Nat.mod_lt _ (by decide))

/-- A calendar has the moment of every timestamp. -/
private theorem moment?_eq (h : Calendar.HasMoments moment?) (t : Timestamp) :
    moment? t.seconds t.nanos = some t.toInstant := by
  have hlt := t.seconds_lt
  refine h t.seconds t.nanos ?_ ?_ t.nanos_lt
  · rw [Calendar.firstSecond]
    omega
  · rw [Calendar.lastSecond]
    omega

/-- The calendar has the moment of every timestamp. -/
theorem dateTime_eq (h : Calendar.HasMoments moment?) (t : Timestamp) :
    t.dateTime moment? = t.toInstant := by
  rw [dateTime, moment?_eq h, Option.getD_some]

/-- The moment of a timestamp in nanoseconds. -/
private theorem nanos_toInstant (t : Timestamp) :
    t.toInstant.nanos = ((t.seconds * 10 ^ 9 + t.nanos : Nat) : Int) := nanos_ofSeconds _ _

/-- A stamp keeps the seconds of its instant, and of the nanoseconds what the units keep. -/
private theorem toInstant_ofInstant {s n : Nat} (hs : s < 2 ^ 32) (hn : n < 10 ^ 9) (c : ClockId) :
    (ofInstant (.ofSeconds s n) c).toInstant = .ofSeconds s (nanosOfUnits (unitsOfNanos n)) := by
  have hpart := unitsOfNanos_lt hn
  have htime : (ofInstant (.ofSeconds s n) c).time.toNat = s * 2 ^ 32 + unitsOfNanos n := by
    rw [ofInstant, toNat_timeOfInstant_ofSeconds s hn, Nat.mod_eq_of_lt hs]
  have hseconds : (s * 2 ^ 32 + unitsOfNanos n) / 2 ^ 32 = s := by omega
  have hunits : (s * 2 ^ 32 + unitsOfNanos n) % 2 ^ 32 = unitsOfNanos n := by omega
  rw [toInstant, seconds_eq, nanos_eq, htime, hseconds, hunits]

/-- A later timestamp has no earlier moment. -/
private theorem toInstant_mono {t u : Timestamp} (h : t.time ≤ u.time) :
    t.toInstant.nanos ≤ u.toInstant.nanos := by
  have hle := UInt64.le_iff_toNat_le.1 h
  have hnanos := t.nanos_lt
  rw [nanos_toInstant, nanos_toInstant, Int.ofNat_le]
  have hseconds : t.seconds ≤ u.seconds := Nat.div_le_div_right hle
  rcases Nat.lt_or_eq_of_le hseconds with hlt | heq
  · -- the nanoseconds of the earlier second do not reach the later one
    omega
  · -- within one second the units decide
    have hunits : t.time.toNat % 2 ^ 32 ≤ u.time.toNat % 2 ^ 32 := by
      rw [seconds_eq, seconds_eq] at heq
      omega
    have hmono : t.nanos ≤ u.nanos := nanosOfUnits_mono hunits
    omega

/-- Stamping what was read of a timestamp. -/
private theorem toNat_time_synthesize (t : Timestamp) :
    (synthesize t.toInstant).time.toNat =
      t.seconds * 2 ^ 32 + unitsOfNanos (nanosOfUnits (t.time.toNat % 2 ^ 32)) := by
  rw [synthesize, ofInstant, toInstant, toNat_timeOfInstant_ofSeconds _ t.nanos_lt,
    Nat.mod_eq_of_lt t.seconds_lt, nanos_eq]

/-- What is lost between timestamps and the date-times of a calendar. -/
structure Rereads (moment? : Int → Nat → Option Instant) : Prop where
  /-- An instant that was stamped comes back if its nanoseconds are a whole number of units, and
  otherwise one nanosecond earlier. -/
  dateTime_ofInstant : ∀ (s n : Nat) (c : ClockId), s < 2 ^ 32 → n < 10 ^ 9 →
    (ofInstant (.ofSeconds s n) c).dateTime moment? =
      if 5 ^ 9 ∣ n then .ofSeconds s n else ⟨(Instant.ofSeconds s n).nanos - 1⟩
  /-- The nanoseconds stay below a second, and the calendar has the moment. -/
  has_moment : ∀ t : Timestamp, t.nanos < 10 ^ 9 ∧
    moment? t.seconds t.nanos = some (t.dateTime moment?)
  /-- A later time is not read as an earlier moment. -/
  mono : ∀ t u : Timestamp, t.time ≤ u.time →
    (t.dateTime moment?).nanos ≤ (u.dateTime moment?).nanos
  /-- The moment is stamped with a time that is no later, and at most five units earlier. -/
  stamped_again : ∀ t : Timestamp, (synthesize (t.dateTime moment?)).time ≤ t.time ∧
    t.time.toNat ≤ (synthesize (t.dateTime moment?)).time.toNat + 5

/-- A timestamp read as a date-time is at most one nanosecond behind the instant that was stamped.
Every timestamp has a date-time, later ones no earlier, and stamping it loses at most five units. -/
theorem rereads_dateTime (h : Calendar.HasMoments moment?) : Rereads moment? where
  dateTime_ofInstant s n c hs hn := by
    rw [dateTime_eq h, toInstant_ofInstant hs hn, nanosOfUnits_unitsOfNanos]
    split
    · rfl
    · next hdvd =>
      have hpos : n ≠ 0 := fun hzero => hdvd (hzero ▸ Nat.dvd_zero _)
      rw [Instant.mk.injEq, nanos_ofSeconds, nanos_ofSeconds]
      omega
  -- the bounds on seconds and nanoseconds keep the moment within the calendar
  has_moment t := ⟨t.nanos_lt, by rw [dateTime_eq h, moment?_eq h]⟩
  mono t u htime := by
    rw [dateTime_eq h, dateTime_eq h]
    exact toInstant_mono htime
  stamped_again t := by
    have hunits := unitsOfNanos_nanosOfUnits_bounds (t.time.toNat % 2 ^ 32)
    rw [dateTime_eq h, UInt64.le_iff_toNat_le, toNat_time_synthesize, seconds_eq]
    omega

/-- Nanoseconds that no unit falls on, read by the calendar. -/
theorem rereads_odd_nanos :
    Calendar.HasMoments Calendar.moment? ∧
      (ofInstant (.ofSeconds 1600000000 123456789) .zero).dateTime Calendar.moment? =
        .ofSeconds 1600000000 123456788 :=
  ⟨Calendar.hasMoments_moment?,
    (rereads_dateTime Calendar.hasMoments_moment?).dateTime_ofInstant 1600000000 123456789 .zero
      (by decide) (by decide)⟩

end Timestamp

end PathSpace
