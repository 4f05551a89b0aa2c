import PathSpace.Time.Timestamp
/-!
# The order of timestamps

Timestamps are ordered by their times, and those of the same time by their clocks.  Two
timestamps of which neither comes before the other are the same.

## Key results

- `before_trans`, `not_before_of_before`, `eq_of_not_before`: `before` is a strict linear order
- `before_of_time_lt`: a timestamp with an earlier time comes before
-/

namespace PathSpace.Timestamp

instance : Std.LawfulEqOrd Timestamp where
  eq_of_compare {a b} h := by
    have hthen : (compare a.time b.time).then (compare a.clock b.clock) = .eq := h
    obtain ⟨htime, hclock⟩ := Ordering.then_eq_eq.1 hthen
    cases a
    cases b
    rw [Timestamp.mk.injEq]
    exact ⟨Std.LawfulEqOrd.eq_of_compare htime, Std.LawfulEqOrd.eq_of_compare hclock⟩

variable {t u v : Timestamp}

theorem before_iff : t.before u = true ↔ compare t u = .lt := by
  rw [before, beq_iff_eq]

/-- A timestamp with an earlier time comes before, whatever the clocks. -/
theorem before_of_time_lt (h : t.time < u.time) : t.before u = true := by
  have hlt : compare t.time u.time = .lt := Std.compare_eq_lt.2 h
  rw [before_iff]
  change (compare t.time u.time).then (compare t.clock u.clock) = .lt
  rw [hlt]
  rfl

@[simp] theorem not_before_self (t : Timestamp) : t.before t = false := by
  have hself : compare t t = .eq := Std.ReflCmp.compare_self
  rw [before, hself]
  rfl

theorem before_trans (htu : t.before u = true) (huv : u.before v = true) : t.before v = true :=
  before_iff.2 (Std.TransCmp.lt_trans (before_iff.1 htu) (before_iff.1 huv))

theorem not_before_of_before (h : t.before u = true) : u.before t = false := by
  have hgt : compare u t = .gt := Std.OrientedCmp.gt_of_lt (before_iff.1 h)
  rw [before, hgt]
  rfl

/-- Of two timestamps of one clock, none comes before one with an earlier time. -/
theorem not_before_of_time_le (hclock : t.clock = u.clock) (h : u.time ≤ t.time) :
    t.before u = false := by
  have hself : compare u.clock u.clock = .eq := Std.ReflCmp.compare_self
  have hne : compare t u ≠ .lt := by
    change (compare t.time u.time).then (compare t.clock u.clock) ≠ .lt
    rw [hclock, hself]
    cases hcmp : compare t.time u.time with
    | lt => exact absurd (Std.compare_eq_lt.1 hcmp) (UInt64.not_lt.2 h)
    | eq => simp
    | gt => simp
  rw [before, beq_eq_false_iff_ne]
  exact hne

/-- Two timestamps of which neither comes before the other are the same. -/
theorem eq_of_not_before (htu : t.before u = false) (hut : u.before t = false) : t = u := by
  have hlt : compare t u ≠ .lt := fun h => by simp [before_iff.2 h] at htu
  have hgt : compare t u ≠ .gt := fun h => by
    simp [before_iff.2 (Std.OrientedCmp.gt_iff_lt.1 h)] at hut
  refine Std.LawfulEqOrd.eq_of_compare ?_
  cases hcmp : compare t u with
  | lt => exact absurd hcmp hlt
  | eq => rfl
  | gt => exact absurd hcmp hgt

/-- What is not later than something earlier is earlier. -/
theorem before_of_not_before_of_before (hut : u.before t = false) (huv : u.before v = true) :
    t.before v = true := by
  by_cases htu : t.before u = true
  · exact before_trans htu huv
  · rwa [eq_of_not_before (by simpa using htu) hut]

theorem before_of_before_of_not_before (htu : t.before u = true) (hvu : v.before u = false) :
    t.before v = true := by
  by_cases huv : u.before v = true
  · exact before_trans htu huv
  · rwa [← eq_of_not_before (by simpa using huv) hvu]

end PathSpace.Timestamp
