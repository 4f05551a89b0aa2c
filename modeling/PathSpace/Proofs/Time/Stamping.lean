import PathSpace.Proofs.Time.Order
import Mathlib.Algebra.Ring.Nat
/-!
# Stamping an instant

The time of a timestamp counts a second in 2³² units, an instant counts it in 10⁹ nanoseconds.  A
unit is shorter than a nanosecond, so no two nanoseconds fall into one unit, and the part of a
second never reaches the seconds.  Within the 2³² seconds after the start of 1970 an earlier
instant is therefore stamped with an earlier time.

## Key results

- `unitsOfNanos_bounds`, `unitsOfNanos_lt`: the part of a second in units
- `toNat_timeOfInstant`: the time of an instant in seconds and units
- `toNat_timeInWords`: words of 64 bits are wide enough to calculate it
- `before_of_earlier`: the order of instants and of timestamps
-/

namespace PathSpace.Timestamp

theorem unitsPerSecond_eq : unitsPerSecond = 2 ^ 32 := rfl

theorem nanosPerSecond_eq : Instant.nanosPerSecond = 10 ^ 9 := rfl

/-! ## The part of a second -/

/-- So many nanoseconds in units, rounded down. -/
def unitsOfNanos (n : Nat) : Nat := n * unitsPerSecond / Instant.nanosPerSecond

/-- The units of a number of nanoseconds, rounded down. -/
theorem unitsOfNanos_bounds (n : Nat) :
    unitsOfNanos n * 10 ^ 9 ≤ n * 2 ^ 32 ∧ n * 2 ^ 32 < (unitsOfNanos n + 1) * 10 ^ 9 := by
  rw [unitsOfNanos, unitsPerSecond_eq, nanosPerSecond_eq]
  omega

/-- Two nanoseconds never fall into one unit. -/
private theorem unitsOfNanos_lt_unitsOfNanos {m n : Nat} (h : m < n) :
    unitsOfNanos m < unitsOfNanos n := by
  have hm := unitsOfNanos_bounds m
  have hn := unitsOfNanos_bounds n
  -- a nanosecond has more than four units, and rounding down takes less than one
  omega

/-- A part of a second never reaches the seconds. -/
theorem unitsOfNanos_lt {n : Nat} (h : n < 10 ^ 9) : unitsOfNanos n < 2 ^ 32 := by
  have hn := unitsOfNanos_bounds n
  omega

/-! ## The time of an instant -/

/-- The whole seconds of an instant, as many as there is room for, and the part of a second. -/
theorem toNat_timeOfInstant (t : Instant) :
    (timeOfInstant t).toNat =
      t.nanos.toNat / 10 ^ 9 % 2 ^ 32 * 2 ^ 32 + unitsOfNanos (t.nanos.toNat % 10 ^ 9) := by
  have hpart := unitsOfNanos_lt (Nat.mod_lt t.nanos.toNat (show 0 < 10 ^ 9 by decide))
  have hroom : t.nanos.toNat / 10 ^ 9 % 2 ^ 32 * 2 ^ 32 +
      unitsOfNanos (t.nanos.toNat % 10 ^ 9) < 2 ^ 64 := by omega
  exact UInt64.toNat_ofNat_of_lt' hroom

theorem nanos_ofSeconds (s n : Nat) :
    (Instant.ofSeconds s n).nanos = ((s * 10 ^ 9 + n : Nat) : Int) := rfl

/-- An instant after the epoch has a natural number of nanoseconds. -/
private theorem toNat_nanos_ofSeconds (s n : Nat) :
    (Instant.ofSeconds s n).nanos.toNat = s * 10 ^ 9 + n := by
  rw [nanos_ofSeconds, Int.toNat_natCast]

/-- The time of an instant has the seconds in its upper half, and the units in its lower half. -/
theorem toNat_timeOfInstant_ofSeconds (s : Nat) {n : Nat} (h : n < 10 ^ 9) :
    (timeOfInstant (.ofSeconds s n)).toNat = s % 2 ^ 32 * 2 ^ 32 + unitsOfNanos n := by
  have hseconds : (s * 10 ^ 9 + n) / 10 ^ 9 = s := by omega
  have hnanos : (s * 10 ^ 9 + n) % 10 ^ 9 = n := by omega
  rw [toNat_timeOfInstant, toNat_nanos_ofSeconds, hseconds, hnanos]

/-- Before 1970 the time stands still. -/
private theorem timeOfInstant_of_neg {t : Instant} (h : t.nanos < 0) : timeOfInstant t = 0 := by
  have hnanos : t.nanos.toNat = 0 := Int.toNat_of_nonpos (Int.le_of_lt h)
  rw [← UInt64.toNat_inj, toNat_timeOfInstant, hnanos]
  rfl

/-! ## Words of 64 bits -/

/-- The time calculated in words of 64 bits: the lower half of the seconds, moved up, beside the
nanoseconds in units. -/
def timeInWords (seconds nanos : UInt64) : UInt64 :=
  (seconds &&& 0xffffffff) <<< 32 ||| nanos * 0x100000000 / 1000000000

/-- The time that is computed in words of 64 bits. -/
theorem toNat_timeInWords (seconds : UInt64) {nanos : UInt64} (h : nanos.toNat < 10 ^ 9) :
    (timeInWords seconds nanos).toNat =
      seconds.toNat % 2 ^ 32 * 2 ^ 32 + unitsOfNanos nanos.toNat := by
  have hpart := unitsOfNanos_lt h
  have hproduct : nanos.toNat * 2 ^ 32 < 2 ^ 64 := by omega
  have hlow : (nanos * 0x100000000 / 1000000000).toNat = unitsOfNanos nanos.toNat := by
    rw [UInt64.toNat_div, UInt64.toNat_mul]
    exact congrArg (· / 10 ^ 9) (Nat.mod_eq_of_lt hproduct)
  -- moving the lower half up loses no bit of it
  have hhigh : ((seconds &&& 0xffffffff) <<< 32).toNat = 2 ^ 32 * (seconds.toNat % 2 ^ 32) := by
    rw [UInt64.toNat_shiftLeft, UInt64.toNat_and]
    change (seconds.toNat &&& (2 ^ 32 - 1)) <<< 32 % 2 ^ 64 = _
    rw [Nat.and_two_pow_sub_one_eq_mod, Nat.shiftLeft_eq]
    omega
  -- the two halves have no bit in common, so putting them together is adding them
  rw [timeInWords, UInt64.toNat_or, hhigh, hlow, ← Nat.two_pow_add_eq_or_of_lt hpart]
  omega

/-! ## The order of instants and of timestamps -/

/-- Of two instants the seconds decide, and within one second the nanoseconds. -/
private theorem nanos_ofSeconds_lt_iff {s s' n n' : Nat} (hn : n < 10 ^ 9) (hn' : n' < 10 ^ 9) :
    (Instant.ofSeconds s n).nanos < (Instant.ofSeconds s' n').nanos ↔
      s < s' ∨ s = s' ∧ n < n' := by
  rw [nanos_ofSeconds, nanos_ofSeconds, Int.ofNat_lt]
  omega

/-- An earlier instant is stamped with an earlier time, while there is room for the seconds. -/
private theorem timeOfInstant_lt {s s' n n' : Nat} (hs : s < 2 ^ 32) (hs' : s' < 2 ^ 32)
    (hn : n < 10 ^ 9)
    (hn' : n' < 10 ^ 9)
    (h : (Instant.ofSeconds s n).nanos < (Instant.ofSeconds s' n').nanos) :
    timeOfInstant (.ofSeconds s n) < timeOfInstant (.ofSeconds s' n') := by
  have hpart := unitsOfNanos_lt hn
  rw [UInt64.lt_iff_toNat_lt, toNat_timeOfInstant_ofSeconds s hn,
    toNat_timeOfInstant_ofSeconds s' hn', Nat.mod_eq_of_lt hs, Nat.mod_eq_of_lt hs']
  rcases (nanos_ofSeconds_lt_iff hn hn').1 h with hseconds | ⟨rfl, hnanos⟩
  · -- the part of the earlier second does not reach the later one
    omega
  · exact Nat.add_lt_add_left (unitsOfNanos_lt_unitsOfNanos hnanos) _

/-- Instants are stamped in their order: within the 2³² seconds after the start of 1970 an earlier
one gets a timestamp that comes before, whatever the clocks.  All instants before that are stamped
with time zero, which no timestamp of the same clock comes before.  The calculation fits into words
of 64 bits. -/
theorem before_of_earlier :
    (∀ (s s' n n' : Nat) (c c' : ClockId), s < 2 ^ 32 → s' < 2 ^ 32 → n < 10 ^ 9 → n' < 10 ^ 9 →
      (Instant.ofSeconds s n).nanos < (Instant.ofSeconds s' n').nanos →
      (ofInstant (.ofSeconds s n) c).before (ofInstant (.ofSeconds s' n') c') = true) ∧
    (∀ t : Instant, t.nanos < 0 → timeOfInstant t = 0) ∧
    (∀ (t u : Instant) (c : ClockId), t.nanos < 0 →
      (ofInstant u c).before (ofInstant t c) = false) ∧
    ∀ seconds nanos : UInt64, nanos.toNat < 10 ^ 9 →
      nanos.toNat * unitsPerSecond < 2 ^ 64 ∧
      timeInWords seconds nanos = timeOfInstant (.ofSeconds seconds.toNat nanos.toNat) := by
  refine ⟨fun s s' n n' c c' hs hs' hn hn' h => ?_, fun t => timeOfInstant_of_neg,
    fun t u c ht => ?_,
    fun seconds nanos hnanos => ⟨?_, ?_⟩⟩
  · exact before_of_time_lt (timeOfInstant_lt hs hs' hn hn' h)
  · refine not_before_of_time_le rfl ?_
    rw [ofInstant, ofInstant, timeOfInstant_of_neg ht]
    exact UInt64.zero_le
  · rw [unitsPerSecond_eq]
    omega
  · rw [← UInt64.toNat_inj, toNat_timeInWords seconds hnanos,
      toNat_timeOfInstant_ofSeconds _ hnanos]

/-- The last two nanoseconds for which there is room, and one before 1970. -/
theorem before_of_last_nanos :
    (ofInstant (.ofSeconds 4294967295 999999998) .zero).before
        (ofInstant (.ofSeconds 4294967295 999999999) .zero) = true ∧
      timeOfInstant ⟨-1⟩ = 0 ∧
      (ofInstant (.ofSeconds 0 0) .zero).before (ofInstant ⟨-1⟩ .zero) = false ∧
      timeInWords 4294967295 999999999 = timeOfInstant (.ofSeconds 4294967295 999999999) :=
  ⟨before_of_earlier.1 4294967295 4294967295 999999998 999999999 .zero .zero (by decide) (by decide)
      (by decide) (by decide) (by decide),
    before_of_earlier.2.1 ⟨-1⟩ (by decide),
    before_of_earlier.2.2.1 ⟨-1⟩ (.ofSeconds 0 0) .zero (by decide),
    (before_of_earlier.2.2.2 4294967295 999999999 (by decide)).2⟩

end PathSpace.Timestamp
