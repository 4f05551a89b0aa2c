import PathSpace.Datum.Sample
import PathSpace.Proofs.Time.Order
import Mathlib.Data.List.Basic
import Mathlib.Data.List.Induction
/-!
# Samples in the order of writing

## Key results

- `Sample.Earlier`: one sample was stamped before another
- `lastOf`: the last sample of a path
- `Newest`: the sample of a path with the greatest timestamp
- `newest_iff_of_distinct`: with distinct timestamps it does not depend on the order
-/

namespace PathSpace

namespace Sample

/-- A sample has an earlier timestamp than another one. -/
def Earlier (x y : Sample) : Prop :=
  ∃ t u, x.info.timestamp = some t ∧ y.info.timestamp = some u ∧ t.before u = true

/-- Whether a sample says that its path was removed. -/
def isRemoval (x : Sample) : Bool := x.info.kind.bind ChangeKind.ofByte? == some .remove

/-- Whether a sample has a timestamp. -/
def isStamped (x : Sample) : Bool := x.info.timestamp.isSome

variable {x y z : Sample}

/-- A sample that is earlier than another has a stamp. -/
theorem Earlier.isStamped (h : x.Earlier y) : x.isStamped = true := by
  obtain ⟨t, -, ht, -⟩ := h
  rw [Sample.isStamped, ht]
  rfl

theorem Earlier.trans (hxy : x.Earlier y) (hyz : y.Earlier z) : x.Earlier z := by
  obtain ⟨t, u, ht, hu, htu⟩ := hxy
  obtain ⟨u', v, hu', hv, huv⟩ := hyz
  cases hu.symm.trans hu'
  exact ⟨t, v, ht, hv, Timestamp.before_trans htu huv⟩

/-- Of two samples at most one is earlier. -/
theorem Earlier.asymm (h : x.Earlier y) : ¬ y.Earlier x := by
  obtain ⟨t, u, ht, hu, htu⟩ := h
  rintro ⟨u', t', hu', ht', hut⟩
  cases ht.symm.trans ht'
  cases hu.symm.trans hu'
  simp [Timestamp.not_before_of_before htu] at hut

/-- No sample is earlier than itself. -/
theorem Earlier.irrefl (x : Sample) : ¬ x.Earlier x := fun h => h.asymm h

/-- What is earlier than a sample is earlier than a stamped one that is not earlier than it. -/
theorem Earlier.of_not_earlier (hxy : x.Earlier y) (hz : z.isStamped = true)
    (hzy : ¬ z.Earlier y) : x.Earlier z := by
  obtain ⟨t, u, ht, hu, htu⟩ := hxy
  obtain ⟨v, hv⟩ := Option.isSome_iff_exists.1 hz
  have hvu : v.before u = false := by
    rw [Bool.eq_false_iff]
    exact fun hvu => hzy ⟨v, u, hv, hu, hvu⟩
  exact ⟨t, v, ht, hv, Timestamp.before_of_before_of_not_before htu hvu⟩

/-- Of two samples with different timestamps one is earlier. -/
private theorem earlier_of_ne (hx : x.isStamped = true) (hy : y.isStamped = true)
    (hne : x.info.timestamp ≠ y.info.timestamp) (hxy : ¬ x.Earlier y) : y.Earlier x := by
  obtain ⟨t, ht⟩ := Option.isSome_iff_exists.1 hx
  obtain ⟨u, hu⟩ := Option.isSome_iff_exists.1 hy
  refine ⟨u, t, hu, ht, ?_⟩
  by_contra hut
  have htu : t.before u = false := by
    rw [Bool.eq_false_iff]
    exact fun htu => hxy ⟨t, u, ht, hu, htu⟩
  have heq : t = u := Timestamp.eq_of_not_before htu (by simpa using hut)
  exact hne (by rw [ht, hu, heq])

end Sample

/-- The last sample of a path. -/
def lastOf (path : String) (samples : List Sample) : Option Sample :=
  (samples.filter (·.path == path)).getLast?

variable {path : String} {samples : List Sample} {x : Sample}

/-- The last sample counts if it is of the path. -/
private theorem lastOf_snoc (path : String) (samples : List Sample) (x : Sample) :
    lastOf path (samples ++ [x]) = if path = x.path then some x else lastOf path samples := by
  rw [lastOf, List.filter_append]
  by_cases h : path = x.path
  · simp [h]
  · simp [h, Ne.symm h, lastOf]

/-- The last sample of a path is one of the samples. -/
theorem mem_of_lastOf (h : lastOf path samples = some x) : x ∈ samples :=
  (List.mem_filter.1 (List.mem_of_getLast? h)).1

/-- The last sample of a path is of this path. -/
theorem path_of_lastOf (h : lastOf path samples = some x) : x.path = path := by
  simpa using (List.mem_filter.1 (List.mem_of_getLast? h)).2

/-- Among the samples that concern an expression the last one of a path is the last one of
all, if the path is concerned. -/
theorem lastOf_filter (p : String → Bool) (path : String) (samples : List Sample) :
    lastOf path (samples.filter fun x => p x.path) =
      if p path then lastOf path samples else none := by
  have hswap : (samples.filter fun x => p x.path).filter (·.path == path) =
      (samples.filter (·.path == path)).filter fun _ => p path := by
    rw [List.filter_filter, List.filter_filter]
    refine List.filter_congr fun x _ => ?_
    by_cases hx : x.path = path
    · rw [hx, Bool.and_comm]
    · rw [beq_false_of_ne hx, Bool.false_and, Bool.and_false]
  rw [lastOf, hswap]
  cases p path with
  | true => rw [List.filter_true]; rfl
  | false => rw [List.filter_false]; rfl

/-- The last sample of a path is among the later ones if one of these has the path. -/
theorem lastOf_append (path : String) (samples later : List Sample) :
    lastOf path (samples ++ later) = (lastOf path later).or (lastOf path samples) := by
  rw [lastOf, List.filter_append, List.getLast?_append]
  rfl

/-- The last sample of a path stands before samples of other paths. -/
theorem exists_append_of_lastOf (h : lastOf path samples = some x) :
    ∃ before after, samples = before ++ x :: after ∧ ∀ y ∈ after, y.path ≠ path := by
  induction samples using List.reverseRecOn with
  | nil => cases h
  | append_singleton rest z ih =>
    rw [lastOf_snoc] at h
    -- the very last sample is of the path, or it lies behind
    by_cases hz : path = z.path
    · rw [if_pos hz, Option.some.injEq] at h
      exact ⟨rest, [], by rw [h], by simp⟩
    · rw [if_neg hz] at h
      obtain ⟨before, after, rfl, hafter⟩ := ih h
      refine ⟨before, after ++ [z], by simp, fun y hy => ?_⟩
      rcases List.mem_append.1 hy with hy | hy
      · exact hafter y hy
      · exact List.mem_singleton.1 hy ▸ Ne.symm hz

/-! ## The newest sample of a path -/

/-- A sample has the greatest timestamp of all samples of its path, and of those that have it
too it is the last. -/
def Newest (samples : List Sample) (x : Sample) : Prop :=
  ∃ before after, samples = before ++ x :: after ∧
    (∀ y ∈ before, y.path = x.path → ¬ x.Earlier y) ∧ ∀ y ∈ after, y.path = x.path → y.Earlier x

/-- No two samples of a path have the same timestamp. -/
def Distinct (samples : List Sample) : Prop :=
  samples.Pairwise fun x y => x.path = y.path → x.info.timestamp ≠ y.info.timestamp

/-- The newest sample is one of the samples. -/
private theorem Newest.mem (h : Newest samples x) : x ∈ samples := by
  obtain ⟨before, after, rfl, -⟩ := h
  simp

/-- If the timestamps are distinct, the newest sample of a path is the one that no other one of
the path is later than. -/
theorem newest_iff_of_distinct (hstamped : ∀ x ∈ samples, x.isStamped = true)
    (hdistinct : Distinct samples) :
    Newest samples x ↔ x ∈ samples ∧ ∀ y ∈ samples, y.path = x.path → ¬ x.Earlier y := by
  constructor
  · intro h
    refine ⟨h.mem, fun y hy hpath => ?_⟩
    obtain ⟨before, after, rfl, hbefore, hafter⟩ := h
    rcases List.mem_append.1 hy with hy | hy
    · exact hbefore y hy hpath
    · rcases List.mem_cons.1 hy with rfl | hy
      · exact Sample.Earlier.irrefl y
      · exact (hafter y hy hpath).asymm
  · rintro ⟨hx, hmax⟩
    obtain ⟨before, after, rfl⟩ := List.append_of_mem hx
    refine ⟨before, after, rfl, fun y hy => hmax y (by simp [hy]), fun y hy hpath => ?_⟩
    -- `y` is not later and not at the same time
    have hne : x.info.timestamp ≠ y.info.timestamp :=
      (List.pairwise_cons.1 (List.pairwise_append.1 hdistinct).2.1).1 y hy hpath.symm
    exact Sample.earlier_of_ne (hstamped x (by simp)) (hstamped y (by simp [hy])) hne
      (hmax y (by simp [hy]) hpath)

end PathSpace
