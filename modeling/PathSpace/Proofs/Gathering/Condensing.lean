import PathSpace.Proofs.Gathering.Snapshot
/-!
# Results of results

A source may send what it has, or the result of it: every path and time once, or only the last
time of each path.  The replies of several sources give the same result either way, as long as
nothing is left out that the result would have.

## Key results

- `Condenses.finish_eq`: fewer replies that give the same result
- `condenses_finish`: a result says as much as the replies that it comes from
- `condenses_flatMap`: so do the results of several sources together
- `finish_of_results`: the result of results is the result of all replies
-/

namespace PathSpace.Aggregator

variable {series : Bool} {ds short full short' full' : List Data} {k : Path × Timestamp}

/-- A reply with this path and time would count.  In a snapshot it would have to be as late as any
other for the path. -/
def Counts (series : Bool) (ds : List Data) (k : Path × Timestamp) : Prop :=
  series = false → ∀ e ∈ ds, e.path = k.1 → k.2.before e.timestamp = false

private theorem mem_finish_iff_isFirst {d : Data} :
    d ∈ (empty.pushAll ds).finish series ↔ IsFirst ds d ∧ Counts series ds d.key :=
  mem_finish_pushAll_iff

private theorem Counts.of_subset (h : Counts series full k) (hsub : short ⊆ full) :
    Counts series short k := fun hs e he hpath => h hs e (hsub he) hpath

/-- Some of the replies say as much as all of them: for each path and time that counts, the same
reply comes first. -/
structure Condenses (series : Bool) (short full : List Data) : Prop where
  subset : short ⊆ full
  find?_eq : ∀ k, Counts series full k → short.find? (·.key = k) = full.find? (·.key = k)

namespace Condenses

/-- What says as much for a series says as much for a snapshot. -/
private theorem snapshot (h : Condenses true short full) : Condenses false short full where
  subset := h.subset
  find?_eq k _ := h.find?_eq k fun hs => by cases hs

/-- Two sources one after the other. -/
theorem append (h : Condenses series short full) (h' : Condenses series short' full') :
    Condenses series (short ++ short') (full ++ full') where
  subset := by
    rw [List.append_subset]
    exact ⟨List.subset_append_of_subset_left _ h.subset,
      List.subset_append_of_subset_right _ h'.subset⟩
  find?_eq k hk := by
    have hleft : Counts series full k := hk.of_subset (List.subset_append_left full full')
    have hright : Counts series full' k := hk.of_subset (List.subset_append_right full full')
    rw [List.find?_append, List.find?_append, h.find?_eq k hleft, h'.find?_eq k hright]

private theorem counts_iff (h : Condenses series short full) :
    Counts series short k ↔ Counts series full k := by
  refine ⟨fun hk hs e he hpath => ?_, fun hk => hk.of_subset h.subset⟩
  -- the last reply for the path counts, so it has not been left out, and `e` is not later
  obtain ⟨d, hd, hdpath⟩ := exists_mem_snapshot he
  obtain ⟨hfirst, hlast⟩ := mem_finish_iff_isFirst.1 hd
  have hfind := (h.find?_eq d.key fun _ => hlast rfl).trans hfirst
  have hkd := hk hs d (List.mem_of_find?_eq_some hfind) (hdpath.trans hpath)
  by_contra hke
  have hde := hlast rfl e he hdpath.symm
  have hbefore := Timestamp.before_of_before_of_not_before (by simpa using hke) hde
  exact absurd (hbefore.symm.trans hkd) (by simp)

/-- Replies that say as much give the same result. -/
theorem finish_eq (h : Condenses series short full) :
    (empty.pushAll short).finish series = (empty.pushAll full).finish series := by
  refine eq_of_precedes Data.key (finish_pushAll_sorted short series)
    (finish_pushAll_sorted full series) fun d => ?_
  rw [mem_finish_iff_isFirst, mem_finish_iff_isFirst, h.counts_iff]
  refine and_congr_left fun hd => ?_
  rw [IsFirst, IsFirst, h.find?_eq d.key hd]

end Condenses

/-- A result says as much as the replies that it comes from. -/
theorem condenses_finish (ds : List Data) (series : Bool) :
    Condenses series ((empty.pushAll ds).finish series) ds where
  subset d hd := (mem_finish_iff_isFirst.1 hd).1.mem
  find?_eq k hk := by
    have hfirst {d : Data} (hd : d ∈ (empty.pushAll ds).finish series) (hkey : d.key = k) :
        ds.find? (·.key = k) = some d := hkey ▸ (mem_finish_iff_isFirst.1 hd).1
    cases hfind : ((empty.pushAll ds).finish series).find? (·.key = k) with
    | some d =>
      have hkey : d.key = k := by simpa using List.find?_some hfind
      exact (hfirst (List.mem_of_find?_eq_some hfind) hkey).symm
    | none =>
      -- a first reply with this path and time would be in the result
      by_contra hne
      obtain ⟨d, hd⟩ := Option.ne_none_iff_exists'.1 (Ne.symm hne)
      have hkey : d.key = k := by simpa using List.find?_some hd
      subst hkey
      have hmem := mem_finish_iff_isFirst.2 ⟨hd, hk⟩
      exact absurd (decide_eq_true rfl) (List.find?_eq_none.1 hfind d hmem)

/-- Several sources, each of which sends less that says as much. -/
theorem condenses_flatMap {α : Type} (sources : List α) (short full : α → List Data)
    (h : ∀ s, Condenses series (short s) (full s)) :
    Condenses series (sources.flatMap short) (sources.flatMap full) := by
  induction sources with
  | nil => exact ⟨List.Subset.refl _, fun _ _ => rfl⟩
  | cons s sources ih =>
    rw [List.flatMap_cons, List.flatMap_cons]
    exact (h s).append ih

/-- The replies of several sources give the same result if each source sends the result of its
own; the snapshot of a series is the snapshot of its replies; and for a snapshot each source may
send either its series or its snapshot. -/
theorem finish_of_results :
    (∀ (sources : List (List Data)) (series : Bool),
      (empty.pushAll (sources.flatMap fun ds => (empty.pushAll ds).finish series)).finish series =
        (empty.pushAll sources.flatten).finish series) ∧
    (∀ ds : List Data,
      (empty.pushAll ((empty.pushAll ds).finish true)).finish false =
        (empty.pushAll ds).finish false) ∧
    ∀ sources : List (Bool × List Data),
      (empty.pushAll (sources.flatMap fun s => (empty.pushAll s.2).finish s.1)).finish false =
        (empty.pushAll (sources.flatMap (·.2))).finish false := by
  refine ⟨fun sources series => ?_, fun ds => (condenses_finish ds true).snapshot.finish_eq,
    fun sources => ?_⟩
  · rw [← List.flatMap_id]
    exact (condenses_flatMap sources _ id fun ds => condenses_finish ds series).finish_eq
  · refine (condenses_flatMap sources _ _ fun s => ?_).finish_eq
    cases hs : s.1 with
    | true => exact (condenses_finish s.2 true).snapshot
    | false => exact condenses_finish s.2 false

end PathSpace.Aggregator
