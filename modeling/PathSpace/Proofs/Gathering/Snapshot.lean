import PathSpace.Proofs.Gathering.ArrivalOrder
/-!
# Series and snapshots

The same replies can be read as a series or as a snapshot.  The series has every path and time
that was answered, and the snapshot is what the series says last of each path.

## Key results

- `mem_snapshot_iff`: the snapshot in terms of the series
- `exists_mem_snapshot`, `snapshot_sorted`: each path that was answered, once and in order
- `summarizes_finish`: what a series and a snapshot say of the replies
-/

namespace PathSpace.Aggregator

variable {ds : List Data} {d : Data}

/-- A series says nothing later of the path of a datum. -/
def IsLatest (series : List Data) (d : Data) : Prop :=
  d ∈ series ∧ ∀ e ∈ series, e.path = d.path → d.timestamp.before e.timestamp = false

/-- The snapshot has the last datum that the series has of each path. -/
theorem mem_snapshot_iff :
    d ∈ (empty.pushAll ds).finish false ↔ IsLatest ((empty.pushAll ds).finish true) d := by
  have hseries (e : Data) : e ∈ (empty.pushAll ds).finish true ↔ IsFirst ds e := by
    simp [mem_finish_pushAll_iff]
  rw [mem_finish_pushAll_iff, IsLatest, hseries]
  refine and_congr_right fun _ => ⟨fun hlast e he => hlast rfl e ((hseries e).1 he).mem, ?_⟩
  intro hlast _ e he hpath
  -- a reply that is not in the series came after one that is, with the same path and time
  obtain ⟨f, hf, hkey⟩ := exists_isFirst he
  obtain ⟨hfpath, hftime⟩ := Data.key_eq_iff.1 hkey
  rw [← hftime]
  exact hlast f ((hseries f).2 hf) (hfpath.trans hpath)

/-- The snapshot has every path that was answered. -/
theorem exists_mem_snapshot {e : Data} (he : e ∈ ds) :
    ∃ d ∈ (empty.pushAll ds).finish false, d.path = e.path := by
  have hgroup := mem_groups_iff.2 ⟨⟨e, he, rfl⟩, rfl⟩
  generalize hreplies : (ds.filter fun d => d.path = e.path) = group at hgroup
  have hmem : e ∈ group := by simp [← hreplies, he]
  obtain ⟨f, hf, -⟩ := exists_mem_history hmem
  obtain ⟨d, hlast⟩ := Option.ne_none_iff_exists'.1
    (mt List.getLast?_eq_none_iff.1 (List.ne_nil_of_mem hf))
  have hd : d ∈ ofGroup false group := by simp [ofGroup, hlast]
  refine ⟨d, List.mem_flatMap.2 ⟨group, List.mem_map.2 ⟨_, hgroup, rfl⟩, hd⟩, ?_⟩
  have hdgroup : d ∈ group := List.mem_of_find?_eq_some (mem_ofGroup_iff.1 hd).1
  rw [← hreplies] at hdgroup
  simpa using (List.mem_filter.1 hdgroup).2

/-- The snapshot is in the order of the paths, and has no path twice. -/
theorem snapshot_sorted (ds : List Data) :
    ((empty.pushAll ds).finish false).Pairwise fun d e => compare d.path e.path = .lt := by
  refine (finish_pushAll_sorted ds false).imp_of_mem fun {d e} hd he hde => ?_
  rcases hde with hlt | ⟨hpath, hbefore⟩
  · exact hlt
  · -- the earlier one of two data for one path is not the last
    have hlast := (mem_snapshot_iff.1 hd).2 e (mem_snapshot_iff.1 he).1 hpath.symm
    have hcontra := hbefore.symm.trans hlast
    cases hcontra

/-- What a series and a snapshot say of a number of replies. -/
structure Summarizes (ds series snapshot : List Data) : Prop where
  /-- The series goes strictly up by path and time. -/
  series_sorted : series.Pairwise fun d e => Precedes d.key e.key
  /-- It has a path and a time if a reply has them. -/
  series_complete : ∀ k, k ∈ series.map Data.key ↔ ∃ d ∈ ds, d.key = k
  /-- Each datum of it is the first reply with its path and time. -/
  series_first : ∀ d ∈ series, IsFirst ds d
  /-- The snapshot goes strictly up by path. -/
  snapshot_sorted : snapshot.Pairwise fun d e => compare d.path e.path = .lt
  /-- It has a path if a reply has it. -/
  snapshot_complete : ∀ p, p ∈ snapshot.map Data.path ↔ ∃ d ∈ ds, d.path = p
  /-- Of each path it has the datum of the series with the greatest time. -/
  snapshot_latest : ∀ d, d ∈ snapshot ↔ IsLatest series d

/-- The series has the first reply with each path and time, and the snapshot the last datum of
each path in the series, both in order. -/
theorem summarizes_finish (ds : List Data) :
    Summarizes ds ((empty.pushAll ds).finish true) ((empty.pushAll ds).finish false) where
  series_sorted := finish_pushAll_sorted ds true
  series_complete k := by simp [mem_map_key_finish_iff]
  series_first d hd := (mem_finish_pushAll_iff.1 hd).1
  snapshot_sorted := snapshot_sorted ds
  snapshot_complete p := by
    rw [List.mem_map]
    constructor
    · rintro ⟨d, hd, rfl⟩
      exact ⟨d, (mem_finish_pushAll_iff.1 hd).1.mem, rfl⟩
    · rintro ⟨e, he, rfl⟩
      exact exists_mem_snapshot he
  snapshot_latest d := mem_snapshot_iff

end PathSpace.Aggregator
