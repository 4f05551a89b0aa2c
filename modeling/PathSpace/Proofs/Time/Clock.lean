import PathSpace.Time.Clock
import PathSpace.Proofs.Time.Order
import Mathlib.Algebra.Ring.Nat
import Mathlib.Data.List.Forall2
/-!
# Readings of the clock

A clock that is read again and again keeps the last time that it gave, so it goes forward
whatever the wall shows.  As long as there is room above what the wall shows, nothing wraps, and
the clock gives what it would give in unbounded numbers.

## Key results

- `Clock.lt_now`: a clock that has room gives a later time than before
- `Clock.toNat_readings`: in words of 64 bits a clock gives what it gives in unbounded numbers
- `Clock.readings_steady`: a new clock goes forward and is never behind the wall
-/

namespace PathSpace

namespace Clock

/-- A reading is the time of the wall, or the next one after the last reading. -/
private theorem now_eq (c : Clock) (wall : Instant) :
    c.now wall = (⟨max (Timestamp.timeOfInstant wall) (c.last + 1), c.id⟩,
      { c with last := max (Timestamp.timeOfInstant wall) (c.last + 1) }) := rfl

/-- The clock remembers its last reading. -/
@[simp] theorem now_last (c : Clock) (wall : Instant) :
    (c.now wall).2.last = (c.now wall).1.time := by
  rw [now_eq]

/-- The clock keeps its name. -/
@[simp] theorem now_id (c : Clock) (wall : Instant) : (c.now wall).2.id = c.id := by
  -- the reading is a variable here, so that nobody computes with it
  have hid : ∀ time, ({ c with last := time } : Clock).id = c.id := fun _ => rfl
  exact (congrArg (fun reading => reading.2.id) (now_eq c wall)).trans (hid _)

/-- A reading has the name of the clock. -/
@[simp] theorem now_clock (c : Clock) (wall : Instant) : (c.now wall).1.clock = c.id := by
  rw [now_eq]

/-- While there is room, the step to the next time does not wrap. -/
private theorem toNat_time_now {c : Clock} (h : c.last.toNat + 1 < 2 ^ 64) (wall : Instant) :
    (c.now wall).1.time.toNat =
      max (Timestamp.timeOfInstant wall).toNat (c.last.toNat + 1) := by
  rw [now_eq, UInt64.toNat_max, UInt64.toNat_add, UInt64.toNat_one, Nat.mod_eq_of_lt h]

/-- A clock that has room gives a later time than before. -/
theorem lt_now {c : Clock} (h : c.last.toNat + 1 < 2 ^ 64) (wall : Instant) :
    c.last < (c.now wall).1.time := by
  rw [UInt64.lt_iff_toNat_lt, toNat_time_now h]
  exact Nat.le_max_right _ _

/-! ## One reading after the other -/

/-- The readings of a clock while the wall shows one instant after the other. -/
def readings (c : Clock) : List Instant → List Timestamp
  | [] => []
  | wall :: rest => (c.now wall).1 :: readings (c.now wall).2 rest

/-- The times of the readings in unbounded numbers, after a reading with the time `last`. -/
def times (last : Nat) : List Instant → List Nat
  | [] => []
  | wall :: rest =>
    max (Timestamp.timeOfInstant wall).toNat (last + 1) ::
      times (max (Timestamp.timeOfInstant wall).toNat (last + 1)) rest

/-- The last time of a clock and all that the wall shows leave room for as many readings. -/
def HasRoom (c : Clock) (walls : List Instant) : Prop :=
  c.last.toNat + walls.length < 2 ^ 64 ∧
    ∀ wall ∈ walls, (Timestamp.timeOfInstant wall).toNat + walls.length < 2 ^ 64

variable {c : Clock} {wall : Instant} {walls : List Instant}

/-- A clock with room for a reading has not come to its end. -/
private theorem HasRoom.lt (h : c.HasRoom (wall :: walls)) : c.last.toNat + 1 < 2 ^ 64 :=
  Nat.lt_of_le_of_lt (Nat.add_le_add_left (Nat.le_add_left 1 walls.length) _) h.1

/-- After a reading there is room for those that are left. -/
private theorem HasRoom.now (h : c.HasRoom (wall :: walls)) : (c.now wall).2.HasRoom walls := by
  obtain ⟨hlast, hwalls⟩ := h
  have hlength : (wall :: walls).length = walls.length + 1 := List.length_cons
  refine ⟨?_, fun later hlater => ?_⟩
  · -- the clock has gone on by one, or up to the wall
    have hwall := hwalls wall List.mem_cons_self
    rw [now_last, toNat_time_now (HasRoom.lt ⟨hlast, hwalls⟩)]
    omega
  · have := hwalls later (List.mem_cons_of_mem _ hlater)
    omega

/-- In words of 64 bits a clock gives what it gives in unbounded numbers. -/
theorem toNat_readings (h : c.HasRoom walls) :
    (c.readings walls).map (·.time.toNat) = times c.last.toNat walls := by
  induction walls generalizing c with
  | nil => rfl
  | cons wall walls ih =>
    rw [readings, times, List.map_cons, ih h.now, now_last, toNat_time_now h.lt]

/-- Every reading has the name of the clock. -/
private theorem clock_of_mem_readings {t : Timestamp} (h : t ∈ c.readings walls) :
    t.clock = c.id := by
  induction walls generalizing c with
  | nil => cases h
  | cons wall walls ih =>
    rw [readings] at h
    rcases List.mem_cons.1 h with rfl | h
    · exact c.now_clock wall
    · exact (ih h).trans (c.now_id wall)

/-- All readings come after the last one before them. -/
private theorem lt_of_mem_times {last t : Nat} (h : t ∈ times last walls) : last < t := by
  induction walls generalizing last with
  | nil => cases h
  | cons wall walls ih =>
    have hnext : last < max (Timestamp.timeOfInstant wall).toNat (last + 1) :=
      Nat.lt_of_lt_of_le (Nat.lt_succ_self last) (Nat.le_max_right _ _)
    rw [times] at h
    rcases List.mem_cons.1 h with rfl | h
    · exact hnext
    · exact Nat.lt_trans hnext (ih h)

/-- The readings increase. -/
private theorem times_increasing (last : Nat) (walls : List Instant) :
    (times last walls).Pairwise (· < ·) := by
  induction walls generalizing last with
  | nil => exact .nil
  | cons wall walls ih => exact List.pairwise_cons.2 ⟨fun _ => lt_of_mem_times, ih _⟩

/-- No reading is behind the wall. -/
private theorem le_times (last : Nat) (walls : List Instant) :
    List.Forall₂ (fun wall t => (Timestamp.timeOfInstant wall).toNat ≤ t) walls
      (times last walls) := by
  induction walls generalizing last with
  | nil => exact .nil
  | cons wall walls ih => exact .cons (Nat.le_max_left _ _) (ih _)

/-! ## What can be relied on -/

/-- What the readings of a clock have to do with what the wall shows. -/
structure Steady (id : ClockId) (walls : List Instant) (readings : List Timestamp) : Prop where
  /-- Each reading comes before all later ones. -/
  increasing : readings.Pairwise fun t u => t.before u = true
  clock : ∀ t ∈ readings, t.clock = id
  /-- There is one reading for each instant, and it is not behind it. -/
  notBehind : List.Forall₂
    (fun wall t => (Timestamp.ofInstant wall id).time ≤ t.time) walls readings
  /-- Nothing has wrapped. -/
  unbounded : readings.map (·.time.toNat) = times 0 walls

/-- A new clock goes forward and is never behind the wall, whether that goes forward, stands still
or jumps back, as long as there is room above what it shows for the number of readings. -/
theorem readings_steady (id : ClockId) (walls : List Instant)
    (hroom : ∀ wall ∈ walls, (Timestamp.timeOfInstant wall).toNat + walls.length < 2 ^ 64) :
    Steady id walls (({ id } : Clock).readings walls) := by
  -- a new clock has ticked at zero, so only the walls can take up its room
  have hnew : ({ id } : Clock).HasRoom walls := by
    refine ⟨?_, hroom⟩
    cases walls with
    | nil => exact Nat.two_pow_pos 64
    | cons wall walls =>
      exact Nat.lt_of_le_of_lt (Nat.add_le_add_right (Nat.zero_le _) _)
        (hroom wall List.mem_cons_self)
  have htimes : (({ id } : Clock).readings walls).map (·.time.toNat) = times 0 walls :=
    toNat_readings hnew
  refine ⟨?_, fun t => clock_of_mem_readings, ?_, htimes⟩
  · have hincreasing := times_increasing 0 walls
    rw [← htimes, List.pairwise_map] at hincreasing
    exact hincreasing.imp fun hlt => Timestamp.before_of_time_lt (UInt64.lt_iff_toNat_lt.2 hlt)
  · have hle := le_times 0 walls
    rw [← htimes, List.forall₂_map_right_iff] at hle
    exact hle.imp fun _ _ hle => UInt64.le_iff_toNat_le.2 hle

/-- A wall clock that is set before 1970, then to the last nanosecond that there is room for,
where it stands still, and then starts its seconds from zero again. -/
def jumpingWall : List Instant :=
  [⟨-1⟩, .ofSeconds 4294967295 999999999, .ofSeconds 4294967295 999999999,
    .ofSeconds 4294967296 0]

/-- The clock is steady even if the wall jumps back and forth. -/
theorem steady_of_jumpingWall :
    (∀ wall ∈ jumpingWall,
      (Timestamp.timeOfInstant wall).toNat + jumpingWall.length < 2 ^ 64) ∧
    Steady .zero jumpingWall (({ id := .zero } : Clock).readings jumpingWall) := by
  have hroom : ∀ wall ∈ jumpingWall,
      (Timestamp.timeOfInstant wall).toNat + jumpingWall.length < 2 ^ 64 := by decide
  exact ⟨hroom, readings_steady .zero jumpingWall hroom⟩

end Clock

end PathSpace
