import PathSpace.Proofs.Gathering.Aggregator
/-!
# The order of arrival

Replies come from several sources that do not wait for each other.  Paths and times of a result
do not depend on the order in which they come.  A value does, if replies with the same path and
time disagree about it: the first one counts.

## Key results

- `map_key_finish_of_perm`: which paths and times a result has
- `finish_of_perm`: what of a result depends on the order of arrival
-/

namespace PathSpace.Aggregator

variable {ds ds' : List Data} {series : Bool}

/-- Replies with the same path and time have the same value. -/
def Consistent (ds : List Data) : Prop := ∀ d ∈ ds, ∀ e ∈ ds, d.key = e.key → d.value = e.value

/-- A result has a path and a time if a reply has them, and in a snapshot only the last time of
each path. -/
theorem mem_map_key_finish_iff {k : Path × Timestamp} :
    k ∈ ((empty.pushAll ds).finish series).map Data.key ↔
      (∃ d ∈ ds, d.key = k) ∧
        (series = false → ∀ e ∈ ds, e.path = k.1 → k.2.before e.timestamp = false) := by
  rw [List.mem_map]
  constructor
  · rintro ⟨d, hd, rfl⟩
    obtain ⟨hfirst, hlast⟩ := mem_finish_pushAll_iff.1 hd
    exact ⟨⟨d, hfirst.mem, rfl⟩, hlast⟩
  · rintro ⟨⟨d, hd, rfl⟩, hlast⟩
    -- the reply in the result is the first with this path and time, which need not be `d`
    obtain ⟨e, he, hkey⟩ := exists_isFirst hd
    refine ⟨e, mem_finish_pushAll_iff.2 ⟨he, ?_⟩, hkey⟩
    obtain ⟨hpath, htime⟩ := Data.key_eq_iff.1 hkey
    rw [hpath, htime]
    exact hlast

/-- Paths and times of a result do not depend on the order of arrival. -/
theorem map_key_finish_of_perm (h : ds.Perm ds') (series : Bool) :
    ((empty.pushAll ds).finish series).map Data.key =
      ((empty.pushAll ds').finish series).map Data.key := by
  have hsorted (l : List Data) :
      (((empty.pushAll l).finish series).map Data.key).Pairwise Precedes :=
    List.pairwise_map.2 (finish_pushAll_sorted l series)
  refine eq_of_precedes id (hsorted ds) (hsorted ds') fun k => ?_
  rw [mem_map_key_finish_iff, mem_map_key_finish_iff]
  simp only [h.mem_iff]

/-- If replies with the same path and time agree, each of them can count as the first. -/
private theorem Consistent.isFirst_iff (h : Consistent ds) {d : Data} : IsFirst ds d ↔ d ∈ ds := by
  refine ⟨IsFirst.mem, fun hd => ?_⟩
  obtain ⟨e, he, hkey⟩ := exists_isFirst hd
  -- the first one with this path and time has the same value, so it is `d` itself
  have hvalue : e.value = d.value := h e he.mem d hd hkey
  obtain ⟨hpath, htime⟩ := Data.key_eq_iff.1 hkey
  have heq : e = d := by
    cases e
    cases d
    simp_all
  exact heq ▸ he

private theorem finish_of_consistent (hconsistent : Consistent ds) (h : ds.Perm ds')
    (series : Bool) :
    (empty.pushAll ds).finish series = (empty.pushAll ds').finish series := by
  have hconsistent' : Consistent ds' := fun d hd e he =>
    hconsistent d (h.mem_iff.2 hd) e (h.mem_iff.2 he)
  refine eq_of_precedes Data.key (finish_pushAll_sorted ds series)
    (finish_pushAll_sorted ds' series) fun d => ?_
  rw [mem_finish_pushAll_iff, mem_finish_pushAll_iff, hconsistent.isFirst_iff,
    hconsistent'.isFirst_iff]
  simp only [h.mem_iff]

/-- The order of arrival has no influence on the paths and times of a result.  Its values are
those of the first reply with each path and time, so they do not depend on it either if such
replies agree. -/
theorem finish_of_perm (h : ds.Perm ds') (series : Bool) :
    ((empty.pushAll ds).finish series).map Data.key =
        ((empty.pushAll ds').finish series).map Data.key ∧
      (∀ d ∈ (empty.pushAll ds).finish series, IsFirst ds d) ∧
      (∀ d ∈ (empty.pushAll ds').finish series, IsFirst ds' d) ∧
      (Consistent ds →
        (empty.pushAll ds).finish series = (empty.pushAll ds').finish series) := by
  have hfirst (l : List Data) : ∀ d ∈ (empty.pushAll l).finish series, IsFirst l d :=
    fun d hd => (mem_finish_pushAll_iff.1 hd).1
  exact ⟨map_key_finish_of_perm h series, hfirst ds, hfirst ds',
    fun hconsistent => finish_of_consistent hconsistent h series⟩

/-! ### Two replies that disagree -/

/-- A reply for the path `/a`. -/
def replyAt (time : UInt64) (value : Value) : Data :=
  ⟨⟨"/a", by decide, by simp [Path.forbidden], by decide⟩, value, ⟨time, .zero⟩⟩

/-- Replies at two times, the later one given twice. -/
def lateReplies : List Data := [replyAt 2 (.int 7), replyAt 1 (.int 5), replyAt 2 (.int 7)]

/-- The same replies in the order of their times. -/
def timelyReplies : List Data := [replyAt 1 (.int 5), replyAt 2 (.int 7), replyAt 2 (.int 7)]

theorem finish_of_late_reply :
    lateReplies.Perm timelyReplies ∧
      (empty.pushAll lateReplies).finish true = (empty.pushAll timelyReplies).finish true := by
  have hperm : lateReplies.Perm timelyReplies := .swap _ _ _
  have hconsistent : Consistent lateReplies := by
    unfold Consistent lateReplies
    decide
  exact ⟨hperm, (finish_of_perm hperm true).2.2.2 hconsistent⟩

/-- Of two replies with the same path and time the first one counts, whatever their values. -/
theorem finish_depends_on_arrival :
    ¬ ∀ (ds ds' : List Data) (series : Bool), ds.Perm ds' →
      (empty.pushAll ds).finish series = (empty.pushAll ds').finish series := by
  intro h
  have heq := h [replyAt 1 (.int 5), replyAt 1 (.int 7)] [replyAt 1 (.int 7), replyAt 1 (.int 5)]
    true (.swap _ _ _)
  have hfirst : IsFirst [replyAt 1 (.int 5), replyAt 1 (.int 7)] (replyAt 1 (.int 5)) := by
    unfold IsFirst
    decide
  have hmem : replyAt 1 (.int 5) ∈
      (empty.pushAll [replyAt 1 (.int 5), replyAt 1 (.int 7)]).finish true :=
    mem_finish_pushAll_iff.2 ⟨hfirst, by simp⟩
  rw [heq, mem_finish_pushAll_iff] at hmem
  -- in the other order the other reply is the first
  have hother : ¬ IsFirst [replyAt 1 (.int 7), replyAt 1 (.int 5)] (replyAt 1 (.int 5)) := by
    unfold IsFirst
    decide
  exact hother hmem.1

end PathSpace.Aggregator
