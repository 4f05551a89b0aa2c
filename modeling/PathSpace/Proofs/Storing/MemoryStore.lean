import PathSpace.Proofs.Collections.List
import PathSpace.Proofs.Collections.SortedMap
import PathSpace.Proofs.Datum.Samples
import PathSpace.Storing.MemoryStore
import Mathlib.Data.Set.Card
/-!
# What a store in memory holds

A store compares a sample with what it holds for the path, and refuses it if both are stamped
and the sample is earlier.  So a sample without a timestamp is always taken in, and with it the
store forgets how late the samples before it were.

## Key results

- `isStale_iff_outdated`: which samples are refused
- `find?_eq_some_iff_kept`: which sample a path has after a number of samples
- `find?_eq_none_iff`, `find?_eq_some_iff`, `mem_answer_iff_kept`, `encard_find?_eq_size`: what of
  it can be seen
- `mem_answer_iff`: a store that took samples in the order of their timestamps answers with the
  last one of each path, unless that is a removal
- `becomes_value_iff_not_outdated`: a sample becomes the value of its path unless a later one
  came since the last one without a timestamp
-/

namespace PathSpace

variable {samples : List Sample} {x y : Sample}

/-- A later sample of the path of `x` is among the samples, and after it all samples of the path
are stamped. -/
def Outdated (samples : List Sample) (x : Sample) : Prop :=
  ∃ before later between, samples = before ++ later :: between ∧ later.path = x.path ∧
    x.Earlier later ∧ ∀ y ∈ between, y.path = x.path → y.isStamped = true

/-- A sample was not outdated when it came, and all samples of its path that came after it are
earlier. -/
def Kept (samples : List Sample) (x : Sample) : Prop :=
  ∃ before after, samples = before ++ x :: after ∧ ¬ Outdated before x ∧
    ∀ y ∈ after, y.path = x.path → y.Earlier x

/-- Without samples nothing is outdated. -/
private theorem not_outdated_nil (x : Sample) : ¬ Outdated [] x := by
  rintro ⟨before, later, between, h, -⟩
  simp at h

/-- A sample is outdated by the last one, or was already and the last one does not undo it. -/
private theorem outdated_snoc :
    Outdated (samples ++ [y]) x ↔
      (y.path = x.path ∧ x.Earlier y) ∨
        (Outdated samples x ∧ (y.path = x.path → y.isStamped = true)) := by
  constructor
  · rintro ⟨before, later, between, h, hpath, hearlier, hbetween⟩
    -- the sample that outdates is the last one, or lies before it
    rcases snoc_eq_append_cons_iff.1 h with ⟨-, rfl, -⟩ | ⟨rest, rfl, hrest⟩
    · exact .inl ⟨hpath, hearlier⟩
    · exact .inr ⟨⟨before, later, rest, hrest, hpath, hearlier,
        fun w hw => hbetween w (by simp [hw])⟩, hbetween y (by simp)⟩
  · rintro (⟨hpath, hearlier⟩ | ⟨⟨before, later, between, h, hpath, hearlier, hbetween⟩, hy⟩)
    · exact ⟨samples, y, [], rfl, hpath, hearlier, by simp⟩
    · have hsplit : samples ++ [y] = before ++ later :: (between ++ [y]) := by simp [h]
      refine ⟨before, later, between ++ [y], hsplit, hpath, hearlier, ?_⟩
      simpa [or_imp, forall_and] using ⟨hbetween, hy⟩

/-- What is earlier than an outdated sample of the path is outdated, too. -/
private theorem Outdated.of_earlier (h : Outdated samples y) (hpath : y.path = x.path)
    (hearlier : x.Earlier y) : Outdated samples x := by
  obtain ⟨before, later, between, hsplit, hlater, hy, hbetween⟩ := h
  exact ⟨before, later, between, hsplit, hlater.trans hpath, hearlier.trans hy,
    fun w hw hw' => hbetween w hw (hw'.trans hpath.symm)⟩

/-- What is outdated is earlier than every stamped sample of the path that is not. -/
private theorem Outdated.earlier_of_not_outdated (h : Outdated samples x) (hpath : y.path = x.path)
    (hstamped : y.isStamped = true) (hy : ¬ Outdated samples y) : x.Earlier y := by
  obtain ⟨before, later, between, hsplit, hlater, hx, hbetween⟩ := h
  refine hx.of_not_earlier hstamped fun hylater => hy ?_
  exact ⟨before, later, between, hsplit, hlater.trans hpath.symm, hylater,
    fun w hw hw' => hbetween w hw (hw'.trans hpath)⟩

/-- What is kept is the last sample if it is not outdated, or what was kept and is not overwritten.
-/
private theorem kept_snoc :
    Kept (samples ++ [y]) x ↔
      (x = y ∧ ¬ Outdated samples y) ∨ (Kept samples x ∧ (y.path = x.path → y.Earlier x)) := by
  constructor
  · rintro ⟨before, after, h, hnot, hafter⟩
    -- the sample that is kept is the last one, or lies before it
    rcases snoc_eq_append_cons_iff.1 h with ⟨rfl, rfl, -⟩ | ⟨rest, rfl, hrest⟩
    · exact .inl ⟨rfl, hnot⟩
    · exact .inr ⟨⟨before, rest, hrest, hnot, fun w hw => hafter w (by simp [hw])⟩,
        hafter y (by simp)⟩
  · rintro (⟨rfl, hnot⟩ | ⟨⟨before, after, h, hnot, hafter⟩, hy⟩)
    · exact ⟨samples, [], rfl, hnot, by simp⟩
    · have hsplit : samples ++ [y] = before ++ x :: (after ++ [y]) := by simp [h]
      refine ⟨before, after ++ [y], hsplit, hnot, ?_⟩
      simpa [or_imp, forall_and] using ⟨hafter, hy⟩

/-- What is kept is one of the samples. -/
private theorem Kept.mem (h : Kept samples x) : x ∈ samples := by
  obtain ⟨before, after, rfl, -⟩ := h
  simp

namespace MemoryStore

/-! ## One sample -/

/-- An entry has what its sample has said about itself. -/
theorem ofSample_info (x : Sample) : (ofSample x).info = x.info := by
  unfold ofSample
  split <;> rfl

/-- An entry is marked as removed if its sample was a removal. -/
theorem ofSample_removed (x : Sample) : (ofSample x).removed = x.isRemoval := by
  unfold ofSample Sample.isRemoval
  cases x.info.kind.bind ChangeKind.ofByte? with
  | none => rfl
  | some kind => cases kind <;> rfl

/-- An entry of a value has its payload. -/
theorem ofSample_payload {x : Sample} (h : x.isRemoval = false) :
    (ofSample x).payload = x.payload := by
  unfold Sample.isRemoval at h
  unfold ofSample
  split
  · next hkind => simp [hkind] at h
  · rfl

/-- A sample is refused for the sake of a later one. -/
private theorem isStale_ofSample {kept x : Sample} :
    isStale (some (ofSample kept)) x = true ↔ x.Earlier kept := by
  rw [isStale, Option.bind_some, ofSample_info]
  constructor
  · intro h
    split at h
    · next t u ht hu => exact ⟨u, t, hu, ht, h⟩
    · cases h
  · rintro ⟨u, t, hu, ht, h⟩
    rw [hu, ht]
    exact h

/-- A stale sample changes nothing. -/
private theorem store_of_stale {m : MemoryStore} (h : isStale (m.entries.find? x.path) x = true) :
    m.store x = m := by
  rw [store, if_pos h]

/-- A sample that is not stale becomes the entry of its path. -/
theorem find?_store (m : MemoryStore) (x : Sample) (path : String) :
    (m.store x).entries.find? path =
      if path = x.path ∧ isStale (m.entries.find? x.path) x = false then some (ofSample x)
      else m.entries.find? path := by
  rw [store]
  cases isStale (m.entries.find? x.path) x with
  | true => simp
  | false => simp [SortedMap.find?_insert]

/-! ## One sample after the other -/

/-- The last sample is stored last. -/
theorem foldl_store_snoc (samples : List Sample) (x : Sample) :
    (samples ++ [x]).foldl store {} = (samples.foldl store {}).store x := by
  rw [List.foldl_append, List.foldl_cons, List.foldl_nil]

/-- A sample is refused if a later one of its path came, and none without a timestamp since. -/
theorem isStale_iff_outdated (samples : List Sample) (x : Sample) :
    isStale ((samples.foldl store {}).entries.find? x.path) x = true ↔ Outdated samples x := by
  -- `x` is general, because whether `y` is taken in is the same question about `y`
  induction samples using List.reverseRecOn generalizing x with
  | nil =>
    have hfresh : isStale (none : Option Stored) x = false := rfl
    simpa [SortedMap.find?_empty, hfresh] using not_outdated_nil x
  | append_singleton rest y ih =>
    rw [foldl_store_snoc, find?_store, outdated_snoc]
    by_cases hpath : x.path = y.path
    · by_cases hy : Outdated rest y
      · -- `y` was refused, so it is stamped and earlier than what stayed
        have hstale := (ih y).2 hy
        have hstamped : y.isStamped = true := by
          obtain ⟨-, later, -, -, -, hearlier, -⟩ := hy
          exact hearlier.isStamped
        rw [if_neg (by simp [hstale]), ih]
        constructor
        · exact fun h => .inr ⟨h, fun _ => hstamped⟩
        · rintro (⟨-, hearlier⟩ | ⟨h, -⟩)
          · exact hy.of_earlier hpath.symm hearlier
          · exact h
      · have hfresh : isStale ((rest.foldl store {}).entries.find? y.path) y = false := by
          rw [Bool.eq_false_iff]
          exact fun h => hy ((ih y).1 h)
        rw [if_pos ⟨hpath, hfresh⟩, isStale_ofSample]
        constructor
        · exact fun h => .inl ⟨hpath.symm, h⟩
        · rintro (⟨-, h⟩ | ⟨h, hstamped⟩)
          · exact h
          · -- the sample that is later than `x` is not later than `y`
            exact h.earlier_of_not_outdated hpath.symm (hstamped hpath.symm) hy
    · rw [if_neg fun h => hpath h.1, ih]
      have hne : y.path ≠ x.path := Ne.symm hpath
      simp [hne]

/-- What a path has after a number of samples is the one that was kept. -/
theorem find?_eq_some_iff_kept {path : String} {kept : Stored} :
    (samples.foldl store {}).entries.find? path = some kept ↔
      ∃ x, Kept samples x ∧ x.path = path ∧ ofSample x = kept := by
  induction samples using List.reverseRecOn generalizing kept with
  | nil =>
    have hnone : (([] : List Sample).foldl store {}).entries.find? path = none := rfl
    rw [hnone]
    constructor
    · intro h
      cases h
    · rintro ⟨x, hx, -⟩
      cases hx.mem
  | append_singleton rest y ih =>
    rw [foldl_store_snoc, find?_store]
    by_cases hy : path = y.path ∧ isStale ((rest.foldl store {}).entries.find? y.path) y = false
    · obtain ⟨rfl, hfresh⟩ := hy
      have hnot : ¬ Outdated rest y := by
        rw [← isStale_iff_outdated, hfresh]
        simp
      rw [if_pos ⟨rfl, hfresh⟩]
      constructor
      · intro h
        exact ⟨y, kept_snoc.2 (.inl ⟨rfl, hnot⟩), rfl, Option.some.inj h⟩
      · rintro ⟨x, hx, hpath, rfl⟩
        rcases kept_snoc.1 hx with ⟨rfl, -⟩ | ⟨hx, hearlier⟩
        · rfl
        · -- `y` would be earlier than what was there, and yet it was taken in
          have hstale := isStale_ofSample.2 (hearlier hpath.symm)
          rw [← ih.2 ⟨x, hx, hpath, rfl⟩] at hstale
          exact absurd hstale (by simp [hfresh])
    · rw [if_neg hy, ih]
      constructor
      · rintro ⟨x, hx, rfl, rfl⟩
        -- `y` was refused if it has the path at all, so it is earlier than what is held
        refine ⟨x, kept_snoc.2 (.inr ⟨hx, fun hpath => ?_⟩), rfl, rfl⟩
        have hstale : isStale ((rest.foldl store {}).entries.find? y.path) y = true := by
          simpa [hpath] using hy
        rw [hpath, ih.2 ⟨x, hx, rfl, rfl⟩] at hstale
        exact isStale_ofSample.1 hstale
      · rintro ⟨x, hx, hpath, rfl⟩
        rcases kept_snoc.1 hx with ⟨rfl, hnot⟩ | ⟨hx, -⟩
        · refine absurd ((isStale_iff_outdated rest x).1 ?_) hnot
          simpa [hpath.symm] using hy
        · exact ⟨x, hx, hpath, rfl⟩

/-! ## What can be seen -/

/-- A path shows nothing if it has no entry, or one that was removed. -/
theorem find?_eq_none_iff {m : MemoryStore} {path : String} :
    m.find? path = none ↔ ∀ kept, m.entries.find? path = some kept → kept.removed = true := by
  simp [find?, Option.filter_eq_none_iff]

/-- A path shows its entry if it was not removed. -/
theorem find?_eq_some_iff {m : MemoryStore} {path : String} {kept : Stored} :
    m.find? path = some kept ↔ m.entries.find? path = some kept ∧ kept.removed = false := by
  simp [find?, Option.filter_eq_some_iff]

/-- The current entries are those that are shown. -/
private theorem mem_current_iff {m : MemoryStore} {path : String} {kept : Stored} :
    (path, kept) ∈ m.current ↔ m.find? path = some kept := by
  rw [find?_eq_some_iff, SortedMap.find?_eq_some_iff, current, List.mem_filter]
  simp

/-- The size is the number of paths with a value. -/
theorem encard_find?_eq_size (m : MemoryStore) :
    {path | m.find? path ≠ none}.encard = m.size := by
  have hpaths : {path | m.find? path ≠ none} = ((m.current.map (·.1)).toFinset : Set String) := by
    ext path
    rw [Set.mem_ofPred_eq, Option.ne_none_iff_exists', List.coe_toFinset, Set.mem_ofPred_eq,
      List.mem_map]
    constructor
    · rintro ⟨kept, h⟩
      exact ⟨(path, kept), mem_current_iff.2 h, rfl⟩
    · rintro ⟨⟨path', kept⟩, h, rfl⟩
      exact ⟨kept, mem_current_iff.1 h⟩
  -- the listing is sorted by path, so counting entries is counting paths
  have hnodup : (m.current.map (·.1)).Nodup := by
    refine List.pairwise_map.2 ((m.entries.sorted.filter _).imp fun hlt heq => ?_)
    simp [heq] at hlt
  rw [hpaths, Set.encard_coe_eq_coe_finsetCard, List.toFinset_card_of_nodup hnodup,
    List.length_map, size]

/-- A storage is empty if it has no current entry. -/
theorem isEmpty_iff_size {m : MemoryStore} : m.isEmpty = true ↔ m.size = 0 := by
  rw [size, List.length_eq_zero_iff, current, List.filter_eq_nil_iff, isEmpty, SortedMap.values]
  simp

/-- An answer is in the order of the paths, and has no path twice. -/
theorem answer_sorted (m : MemoryStore) (expression : String) :
    (m.answer expression).Pairwise fun y z => y.path < z.path := by
  rw [answer, List.pairwise_map]
  exact ((m.entries.sorted.filter _).filter _).imp compareOfLessAndEq_eq_lt.1

/-- What is answered after a number of samples. -/
theorem mem_answer_iff_kept {expression : String} {y : Sample} :
    y ∈ (samples.foldl store {}).answer expression ↔
      Kept samples y ∧ y.isRemoval = false ∧ Wildcard.meet expression y.path = true := by
  rw [answer, List.mem_map]
  constructor
  · rintro ⟨⟨path, kept⟩, hmem, rfl⟩
    obtain ⟨hcurrent, hmeet⟩ := List.mem_filter.1 hmem
    obtain ⟨hfind, hremoved⟩ := find?_eq_some_iff.1 (mem_current_iff.1 hcurrent)
    -- the entry is that of a sample that is kept
    obtain ⟨x, hx, rfl, rfl⟩ := find?_eq_some_iff_kept.1 hfind
    rw [ofSample_removed] at hremoved
    rw [ofSample_payload hremoved, ofSample_info]
    exact ⟨hx, hremoved, hmeet⟩
  · rintro ⟨hy, hremoval, hmeet⟩
    have hfind := find?_eq_some_iff_kept.2 ⟨y, hy, rfl, rfl⟩
    have hvalue := find?_eq_some_iff.2 ⟨hfind, (ofSample_removed y).trans hremoval⟩
    refine ⟨(y.path, ofSample y), List.mem_filter.2 ⟨mem_current_iff.2 hvalue, hmeet⟩, ?_⟩
    rw [ofSample_payload hremoval, ofSample_info]

/-! ## Samples in order -/

/-- Of samples in the order of their timestamps the last one of each path is kept. -/
private theorem kept_iff_lastOf (h : samples.Pairwise Sample.Earlier) :
    Kept samples x ↔ lastOf x.path samples = some x := by
  constructor
  · rintro ⟨before, after, rfl, -, hafter⟩
    -- a sample that came after `x` is later, so it would be earlier and later
    have hlast : ∀ y ∈ after, y.path ≠ x.path := fun y hy hpath =>
      ((List.pairwise_cons.1 (List.pairwise_append.1 h).2.1).1 y hy).asymm (hafter y hy hpath)
    have hnone : after.filter (·.path == x.path) = [] := by
      simpa [List.filter_eq_nil_iff] using hlast
    simp [lastOf, hnone]
  · intro hlast
    obtain ⟨before, after, rfl, hafter⟩ := exists_append_of_lastOf hlast
    refine ⟨before, after, rfl, ?_, fun y hy hpath => absurd hpath (hafter y hy)⟩
    rintro ⟨_, later, _, rfl, -, hearlier, -⟩
    exact hearlier.asymm ((List.pairwise_append.1 h).2.2 later (by simp) x (by simp))

/-- A store that took samples in order answers with the last one of each path, unless that
says that the path was removed. -/
theorem mem_answer_iff (h : samples.Pairwise Sample.Earlier) (expression : String) (y : Sample) :
    y ∈ (samples.foldl store {}).answer expression ↔
      lastOf y.path samples = some y ∧ y.isRemoval = false ∧
        Wildcard.meet expression y.path = true := by
  rw [mem_answer_iff_kept, kept_iff_lastOf h]

/-! ## Samples that come late -/

/-- A sample becomes the value of its path exactly if it is not outdated.  So when a stamped
sample has come, no earlier one of its path becomes the value, as long as all samples of the path
in between are stamped; an earlier one changes nothing at all. -/
theorem becomes_value_iff_not_outdated (samples : List Sample) (y : Sample) :
    (((samples ++ [y]).foldl store {}).entries.find? y.path = some (ofSample y) ↔
        ¬ Outdated samples y) ∧
      ∀ before x between, samples = before ++ x :: between → x.path = y.path → y.Earlier x →
        (∀ z ∈ between, z.path = y.path → z.isStamped = true) →
        (samples ++ [y]).foldl store {} = samples.foldl store {} := by
  rw [foldl_store_snoc]
  constructor
  · rw [← isStale_iff_outdated, find?_store]
    constructor
    · intro h hstale
      -- what refused `y` would be `y` itself
      rw [if_neg (by simp [hstale])] at h
      rw [h, isStale_ofSample] at hstale
      exact Sample.Earlier.irrefl y hstale
    · intro h
      rw [if_pos ⟨rfl, by simpa using h⟩]
  · intro before x between hsplit hpath hearlier hbetween
    exact store_of_stale ((isStale_iff_outdated samples y).2
      ⟨before, x, between, hsplit, hpath, hearlier, hbetween⟩)

/-- A sample of the path `/a`. -/
def sampleAt (time : Option UInt64) (kind : ChangeKind) : Sample where
  path := "/a"
  payload := [1]
  info := { timestamp := time.map (⟨·, .zero⟩), kind := some kind.toByte }

/-- A put that comes behind the removal that follows it in time changes nothing. -/
theorem late_put_refused :
    (sampleAt (some 10) .put).Earlier (sampleAt (some 20) .remove) ∧
      ([sampleAt (some 20) .remove, sampleAt (some 10) .put].foldl store {}) =
        [sampleAt (some 20) .remove].foldl store {} := by
  have hearlier : (sampleAt (some 10) .put).Earlier (sampleAt (some 20) .remove) :=
    ⟨_, _, rfl, rfl, by decide⟩
  exact ⟨hearlier, (becomes_value_iff_not_outdated [sampleAt (some 20) .remove] _).2 []
    (sampleAt (some 20) .remove) [] rfl rfl hearlier (by simp)⟩

/-- A removal without a timestamp lets a put in that is older than the removal before it. -/
theorem late_put_revives_removed_path :
    ¬ ∀ (before between : List Sample) (x y : Sample),
      ((before ++ [x]).foldl store {}).entries.find? x.path = some (ofSample x) →
      y.path = x.path → y.Earlier x →
      ((before ++ x :: between ++ [y]).foldl store {}).entries.find? x.path ≠
        some (ofSample y) := by
  intro h
  exact h [] [sampleAt none .remove] (sampleAt (some 20) .remove) (sampleAt (some 10) .put)
    (by decide) rfl ⟨_, _, rfl, rfl, by decide⟩ (by decide)

end MemoryStore

end PathSpace
