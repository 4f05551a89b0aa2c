import PathSpace.Proofs.Storing.MemoryStore
/-!
# The newest sample of each path

As long as all samples are stamped, a store holds the newest sample of each path, whatever the
order in which they came, and shows it unless it is a removal.

## Key results

- `newest_wins`: what a store shows after any number of stamped samples, and that their order
  does not matter if the timestamps of each path are distinct
-/

namespace PathSpace

variable {samples : List Sample} {x : Sample}

/-- Among stamped samples one is outdated if there is a later one of its path. -/
private theorem outdated_iff_of_stamped (h : ∀ y ∈ samples, y.isStamped = true) :
    Outdated samples x ↔ ∃ y ∈ samples, y.path = x.path ∧ x.Earlier y := by
  constructor
  · rintro ⟨before, later, between, rfl, hpath, hearlier, -⟩
    exact ⟨later, by simp, hpath, hearlier⟩
  · rintro ⟨y, hy, hpath, hearlier⟩
    obtain ⟨before, between, rfl⟩ := List.append_of_mem hy
    exact ⟨before, y, between, rfl, hpath, hearlier, fun z hz _ => h z (by simp [hz])⟩

/-- Among stamped samples the newest one of each path is kept. -/
private theorem kept_iff_newest (h : ∀ y ∈ samples, y.isStamped = true) :
    Kept samples x ↔ Newest samples x := by
  have hiff : ∀ before after, samples = before ++ x :: after →
      (¬ Outdated before x ↔ ∀ y ∈ before, y.path = x.path → ¬ x.Earlier y) := by
    rintro before after rfl
    rw [outdated_iff_of_stamped fun y hy => h y (by simp [hy])]
    simp
  constructor
  · rintro ⟨before, after, hsplit, hnot, hafter⟩
    exact ⟨before, after, hsplit, (hiff before after hsplit).1 hnot, hafter⟩
  · rintro ⟨before, after, hsplit, hnot, hafter⟩
    exact ⟨before, after, hsplit, (hiff before after hsplit).2 hnot, hafter⟩

namespace MemoryStore

/-- What a store shows of a number of samples: the newest one of each path. -/
structure Shows (m : MemoryStore) (samples : List Sample) : Prop where
  /-- The entry of a path is its newest sample. -/
  entry : ∀ path kept, m.entries.find? path = some kept ↔
    ∃ x, Newest samples x ∧ x.path = path ∧ ofSample x = kept
  /-- Every path with a sample has an entry. -/
  no_entry : ∀ path, m.entries.find? path = none ↔ ∀ x ∈ samples, x.path ≠ path
  /-- No value is found where there is no sample, or where the newest one is a removal. -/
  no_value : ∀ path, m.find? path = none ↔
    (∀ x ∈ samples, x.path ≠ path) ∨ ∃ x, Newest samples x ∧ x.path = path ∧ x.isRemoval = true
  /-- Otherwise what the newest one carries is found. -/
  value : ∀ path kept, m.find? path = some kept ↔
    ∃ x, Newest samples x ∧ x.path = path ∧ x.isRemoval = false ∧ kept = ⟨x.payload, x.info, false⟩
  /-- The size is the number of paths at which a value is found. -/
  size : Set.encard {path | m.find? path ≠ none} = m.size
  isEmpty : m.isEmpty = true ↔ m.size = 0
  /-- A query is answered with the newest samples that it concerns, except for removals. -/
  answer : ∀ expression y, y ∈ m.answer expression ↔
    Newest samples y ∧ y.isRemoval = false ∧ Wildcard.meet expression y.path = true
  answer_sorted : ∀ expression, (m.answer expression).Pairwise fun y z => y.path < z.path

private theorem ofSample_of_not_removal (h : x.isRemoval = false) :
    ofSample x = ⟨x.payload, x.info, false⟩ := by
  have hpayload := ofSample_payload h
  have hinfo := ofSample_info x
  have hremoved := (ofSample_removed x).trans h
  cases hs : ofSample x with
  | mk payload info removed => simp_all

/-- A path has an entry when a sample of it came. -/
private theorem find?_eq_none_iff_of_foldl {path : String} :
    (samples.foldl store {}).entries.find? path = none ↔ ∀ x ∈ samples, x.path ≠ path := by
  induction samples using List.reverseRecOn with
  | nil => simp [SortedMap.find?_empty]
  | append_singleton rest y ih =>
    rw [foldl_store_snoc, find?_store]
    by_cases hpath : y.path = path
    · have hsome : (if path = y.path ∧
            isStale ((rest.foldl store {}).entries.find? y.path) y = false
          then some (ofSample y) else (rest.foldl store {}).entries.find? path) ≠ none := by
        split
        · simp
        · next hstale =>
          -- nothing is refused where there is no entry
          intro hnone
          rw [hpath, hnone] at hstale
          exact hstale ⟨rfl, rfl⟩
      exact iff_of_false hsome fun h => h y (by simp) hpath
    · rw [if_neg fun h => hpath h.1.symm, ih]
      simp [or_imp, forall_and, hpath]

/-- What a store shows after a number of stamped samples. -/
private theorem shows_of_stamped (h : ∀ x ∈ samples, x.isStamped = true) :
    (samples.foldl store {}).Shows samples where
  entry path kept := by
    simp only [find?_eq_some_iff_kept, kept_iff_newest h]
  no_entry path := find?_eq_none_iff_of_foldl
  no_value path := by
    rw [find?_eq_none_iff]
    constructor
    -- an entry that is not shown is that of a removal
    · intro hall
      cases hentry : (samples.foldl store {}).entries.find? path with
      | none => exact .inl (find?_eq_none_iff_of_foldl.1 hentry)
      | some kept =>
        obtain ⟨x, hx, hpath, rfl⟩ := find?_eq_some_iff_kept.1 hentry
        have hremoval := (ofSample_removed x).symm.trans (hall _ hentry)
        exact .inr ⟨x, (kept_iff_newest h).1 hx, hpath, hremoval⟩
    · rintro (hnone | ⟨x, hx, rfl, hremoval⟩) kept hkept
      · rw [find?_eq_none_iff_of_foldl.2 hnone] at hkept
        cases hkept
      · have hentry := find?_eq_some_iff_kept.2 ⟨x, (kept_iff_newest h).2 hx, rfl, rfl⟩
        rw [hentry] at hkept
        cases hkept
        exact (ofSample_removed x).trans hremoval
  -- a value is the newest sample of its path, if this is no removal
  value path kept := by
    rw [find?_eq_some_iff]
    constructor
    · rintro ⟨hentry, hremoved⟩
      obtain ⟨x, hx, hpath, rfl⟩ := find?_eq_some_iff_kept.1 hentry
      rw [ofSample_removed] at hremoved
      exact ⟨x, (kept_iff_newest h).1 hx, hpath, hremoved, ofSample_of_not_removal hremoved⟩
    · rintro ⟨x, hx, hpath, hremoval, rfl⟩
      have hkept := (kept_iff_newest h).2 hx
      exact ⟨find?_eq_some_iff_kept.2 ⟨x, hkept, hpath, ofSample_of_not_removal hremoval⟩, rfl⟩
  size := encard_find?_eq_size _
  isEmpty := isEmpty_iff_size
  answer expression y := by
    rw [mem_answer_iff_kept, kept_iff_newest h]
  answer_sorted := answer_sorted _

/-- The order of the samples does not matter if the timestamps of each path are distinct. -/
private theorem foldl_store_of_perm (h : ∀ x ∈ samples, x.isStamped = true)
    (hdistinct : Distinct samples)
    {reordered : List Sample} (hperm : reordered.Perm samples) :
    reordered.foldl store {} = samples.foldl store {} := by
  have h' : ∀ x ∈ reordered, x.isStamped = true := fun x hx => h x (hperm.mem_iff.1 hx)
  have hdistinct' : Distinct reordered :=
    hperm.symm.pairwise hdistinct fun hxy hpath heq => hxy hpath.symm heq.symm
  -- with distinct timestamps being the newest is a matter of membership only
  have hnewest : ∀ x, Newest reordered x ↔ Newest samples x := by
    intro x
    rw [newest_iff_of_distinct h' hdistinct', newest_iff_of_distinct h hdistinct]
    simp only [hperm.mem_iff]
  have hentries : (reordered.foldl store {}).entries = (samples.foldl store {}).entries := by
    refine SortedMap.ext_find? fun path => Option.ext fun kept => ?_
    rw [(shows_of_stamped h').entry, (shows_of_stamped h).entry]
    simp only [hnewest]
  exact congrArg MemoryStore.mk hentries

/-- The newest sample of each path wins, in whatever order the samples come. -/
theorem newest_wins (h : ∀ x ∈ samples, x.isStamped = true) :
    (samples.foldl store {}).Shows samples ∧
      (Distinct samples → ∀ reordered : List Sample, reordered.Perm samples →
        reordered.foldl store {} = samples.foldl store {}) :=
  ⟨shows_of_stamped h, fun hdistinct _ hperm => foldl_store_of_perm h hdistinct hperm⟩

/-- A removal comes before an update that is older, and another path is put in between. -/
def jumbled : List Sample :=
  [sampleAt (some 10) .put, sampleAt (some 30) .remove,
    { sampleAt (some 5) .put with path := "/b" }, sampleAt (some 20) .update]

theorem newest_of_jumbled :
    (∀ x ∈ jumbled, x.isStamped = true) ∧ Distinct jumbled ∧
      (jumbled.foldl store {}).Shows jumbled ∧
      jumbled.reverse.foldl store {} = jumbled.foldl store {} ∧
      (jumbled.foldl store {}).find? "/a" = none ∧ (jumbled.foldl store {}).size = 1 := by
  have hstamped : ∀ x ∈ jumbled, x.isStamped = true := by decide
  have hdistinct : Distinct jumbled := by
    unfold Distinct
    decide
  obtain ⟨hshows, hreordered⟩ := newest_wins hstamped
  exact ⟨hstamped, hdistinct, hshows, hreordered hdistinct _ (List.reverse_perm _), by decide,
    by decide⟩

end MemoryStore

end PathSpace
