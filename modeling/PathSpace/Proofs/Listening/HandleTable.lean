import PathSpace.Listening.HandleTable
import PathSpace.Proofs.Collections.SortedMap
import Mathlib.Data.List.Perm.Subperm
import Mathlib.Data.List.Nodup
/-!
# Handles in use, and handles that were never given out before

A table that is not full gives out a free handle.  Its counter runs through the handles
cyclically.  As long as it has not come round, all handles in use are behind it, and a new
listener gets a handle that no listener had before.

## Key results

- `exists_probe_eq`: what a walk over handles in use passes, and where it ends
- `not_contains_firstFree`, `parks_of_register`: a new listener gets a free handle
- `register_map`, `lookup_map`, `release_map`: a table does not look at its listeners
- `InFirstRound.register`: a new listener gets the handle at the counter
- `InFirstRound.remove`: a listener that goes leaves the counter where it is
-/

namespace PathSpace.HandleTable

variable {α : Type}

/-- The counter has not come round: all handles in use are behind it. -/
def InFirstRound (t : HandleTable α) : Prop :=
  ∀ (h : Handle) (listener : α), t.entries.find? h = some listener → h < t.next

/-- After a removal nothing is parked under the handle, and the others are as they were. -/
theorem find?_remove (t : HandleTable α) (h h' : Handle) :
    (t.remove h).entries.find? h' = if h' = h then none else t.entries.find? h' :=
  SortedMap.find?_erase t.entries h h'

@[simp] theorem remove_next (t : HandleTable α) (h : Handle) : (t.remove h).next = t.next := rfl

@[simp] theorem remove_capacity (t : HandleTable α) (h : Handle) :
    (t.remove h).capacity = t.capacity := rfl

/-- A handle is in use if a listener is parked under it. -/
theorem contains_iff (t : HandleTable α) (h : Handle) :
    t.contains h = true ↔ ∃ listener, t.entries.find? h = some listener := by
  rw [contains, SortedMap.contains_eq_isSome, Option.isSome_iff_exists]

/-- What is looked up is parked under the handle. -/
theorem find?_of_lookup {t : HandleTable α} {h : Handle} {listener : α}
    (hl : t.lookup h = .ok listener) : t.entries.find? h = some listener := by
  unfold lookup at hl
  split at hl
  · next hf => rw [hf, Except.ok.inj hl]
  · cases hl

/-- A look-up only fails where nothing is parked. -/
theorem find?_of_lookup_error {t : HandleTable α} {h : Handle} {fault : HandleFault}
    (hl : t.lookup h = .error fault) : t.entries.find? h = none := by
  unfold lookup at hl
  split at hl
  · cases hl
  · next hf => exact hf

/-- No handle is listed twice. -/
theorem nodup_handles (t : HandleTable α) : t.handles.Nodup := t.entries.nodup_keys

/-- There are as many handles as there are listeners. -/
theorem length_handles (t : HandleTable α) : t.handles.length = t.size := by
  rw [handles, SortedMap.keys, List.length_map]
  rfl

/-- The handles that are listed are those in use. -/
theorem mem_handles_iff (t : HandleTable α) (h : Handle) :
    h ∈ t.handles ↔ t.contains h = true := by
  rw [contains_iff, handles, SortedMap.mem_keys_iff]

/-- A listing of distinct handles is no longer than one that has all of them. -/
theorem size_le_of_subset (t : HandleTable α) {l : List Handle}
    (h : ∀ h, t.contains h = true → h ∈ l) : t.size ≤ l.length := by
  rw [← t.length_handles]
  exact (List.subperm_of_subset t.nodup_handles fun k hk =>
    h k ((t.mem_handles_iff k).1 hk)).length_le

/-- Every handle in use lies below the capacity. -/
theorem lt_capacity_of_contains (t : HandleTable α) {h : Handle} (hh : t.contains h = true) :
    h < t.capacity := by
  obtain ⟨listener, hfind⟩ := (t.contains_iff h).1 hh
  exact t.entries_lt _ (SortedMap.mem_of_find? hfind)

/-- There are never more listeners than the table has room for. -/
theorem size_le_capacity (t : HandleTable α) : t.size ≤ t.capacity := by
  have hle := t.size_le_of_subset (l := List.range t.capacity) fun h hh =>
    List.mem_range.2 (t.lt_capacity_of_contains hh)
  rwa [List.length_range] at hle

/-! ## A free handle -/

/-- A walk ends some handles further on.  All that it passed are in use, and it stops before its
last step only at a free one. -/
theorem exists_probe_eq (t : HandleTable α) (steps : Nat) {h : Handle} (hlt : h < t.capacity) :
    ∃ passed ≤ steps, t.probe steps h = (h + passed) % t.capacity ∧
      (∀ i < passed, t.contains ((h + i) % t.capacity) = true) ∧
      (passed < steps → t.contains (t.probe steps h) = false) := by
  induction steps generalizing h with
  | zero => exact ⟨0, Nat.le_refl 0, (Nat.mod_eq_of_lt hlt).symm, by simp, by simp⟩
  | succ steps ih =>
    cases hfirst : t.contains h with
    | false =>
      have hprobe : t.probe (steps + 1) h = h := by
        rw [probe, hfirst, if_neg Bool.false_ne_true]
      rw [hprobe]
      exact ⟨0, Nat.zero_le _, (Nat.mod_eq_of_lt hlt).symm, by simp, fun _ => hfirst⟩
    | true =>
      have hprobe : t.probe (steps + 1) h = t.probe steps (t.successor h) := by
        rw [probe, hfirst, if_pos rfl]
      obtain ⟨passed, hle, hend, hpassed, hfree⟩ := ih (t.successor_lt h)
      -- the rest of the walk starts one handle further on
      have hshift : ∀ i, (t.successor h + i) % t.capacity = (h + (i + 1)) % t.capacity := by
        intro i
        rw [successor, Nat.mod_add_mod, Nat.add_assoc, Nat.add_comm 1 i]
      rw [hprobe]
      refine ⟨passed + 1, Nat.succ_le_succ hle, by rw [hend, hshift], fun i hi => ?_,
        fun hlt => hfree (Nat.lt_of_succ_lt_succ hlt)⟩
      cases i with
      | zero => rwa [Nat.add_zero, Nat.mod_eq_of_lt hlt]
      | succ i =>
        rw [← hshift]
        exact hpassed i (Nat.lt_of_succ_lt_succ hi)

/-- A walk that ends at a handle in use went over handles in use only. -/
theorem contains_of_probe (t : HandleTable α) (steps : Nat) {h : Handle} (hlt : h < t.capacity)
    (hused : t.contains (t.probe steps h) = true) {i : Nat} (hi : i ≤ steps) :
    t.contains ((h + i) % t.capacity) = true := by
  obtain ⟨passed, hle, hend, hpassed, hfree⟩ := t.exists_probe_eq steps hlt
  rcases Nat.lt_or_eq_of_le hle with hearly | rfl
  · rw [hfree hearly] at hused
    cases hused
  · rcases Nat.lt_or_eq_of_le hi with hi | rfl
    · exact hpassed i hi
    · exact hend ▸ hused

/-- Fewer steps than there are handles do not lead to the same handle twice. -/
private theorem eq_of_add_mod_eq {c n i j : Nat} (hn : n < c) (hi : i < c) (hj : j < c)
    (h : (n + i) % c = (n + j) % c) : i = j := by
  have hmod : ∀ k, k < c → (n + k) % c = if n + k < c then n + k else n + k - c := by
    intro k hk
    split
    · next hlt => exact Nat.mod_eq_of_lt hlt
    · next hge => rw [Nat.mod_eq_sub_mod (Nat.le_of_not_lt hge), Nat.mod_eq_of_lt (by omega)]
  rw [hmod i hi, hmod j hj] at h
  split at h <;> split at h <;> omega

/-- A table that is not full gives out a free handle: otherwise the walk would have gone over
more handles in use than there are. -/
theorem not_contains_firstFree (t : HandleTable α) (hroom : t.size < t.capacity) :
    t.contains t.firstFree = false := by
  by_contra hused
  rw [Bool.not_eq_false] at hused
  have hpassed : (List.range (t.size + 1)).map (fun i => (t.next + i) % t.capacity) ⊆
      t.handles := by
    intro h hh
    obtain ⟨i, hi, rfl⟩ := List.mem_map.1 hh
    exact (t.mem_handles_iff _).2
      (t.contains_of_probe t.size t.next_lt hused (Nat.le_of_lt_succ (List.mem_range.1 hi)))
  have hdistinct : ((List.range (t.size + 1)).map fun i =>
      (t.next + i) % t.capacity).Nodup := by
    refine List.Nodup.map_on (fun i hi j hj heq => ?_) List.nodup_range
    have hi : i < t.capacity := Nat.lt_of_le_of_lt (Nat.le_of_lt_succ (List.mem_range.1 hi)) hroom
    have hj : j < t.capacity := Nat.lt_of_le_of_lt (Nat.le_of_lt_succ (List.mem_range.1 hj)) hroom
    exact eq_of_add_mod_eq t.next_lt hi hj heq
  -- there would be more handles in use than listeners
  have hlength := (List.subperm_of_subset hdistinct hpassed).length_le
  rw [List.length_map, List.length_range, t.length_handles] at hlength
  exact Nat.not_succ_le_self _ hlength

/-- The handle that a table finds when it is not full is free. -/
theorem find?_firstFree (t : HandleTable α) (hroom : t.size < t.capacity) :
    t.entries.find? t.firstFree = none := by
  have hfree := t.not_contains_firstFree hroom
  rwa [contains, SortedMap.contains_eq_isSome, Option.isSome_eq_false_iff,
    Option.isNone_iff_eq_none] at hfree

/-- The handle that a table finds lies below the capacity. -/
theorem firstFree_lt (t : HandleTable α) : t.firstFree < t.capacity := t.probe_lt t.size t.next_lt

/-- What parking a listener does: it gets a handle that was free, and no other entry changes. -/
structure Parks (t : HandleTable α) (listener : α) (h : Handle) (t' : HandleTable α) : Prop where
  free : t.entries.find? h = none
  name : t'.name = t.name
  capacity : t'.capacity = t.capacity
  find? : ∀ h', t'.entries.find? h' = if h' = h then some listener else t.entries.find? h'

/-- A registration that succeeds has parked the listener. -/
theorem parks_of_register {t t' : HandleTable α} {listener : α} {h : Handle}
    (hreg : t.register listener = .ok (h, t')) : t.Parks listener h t' := by
  rw [register] at hreg
  split at hreg
  · cases hreg
  · next hfull =>
    obtain ⟨rfl, rfl⟩ := Prod.mk.inj (Except.ok.inj hreg)
    exact ⟨t.find?_firstFree (Nat.lt_of_not_le hfull), rfl, rfl, SortedMap.find?_insert _ _ _⟩

/-- A listener that was parked has its handle in use, besides those that were. -/
theorem Parks.contains {t t' : HandleTable α} {listener : α} {h : Handle}
    (hparks : t.Parks listener h t') (h' : Handle) :
    t'.contains h' = (h' == h || t.contains h') := by
  rw [HandleTable.contains, SortedMap.contains_eq_isSome, hparks.find?, HandleTable.contains,
    SortedMap.contains_eq_isSome]
  by_cases heq : h' = h <;> simp [heq]

/-- A listener that is taken back at once leaves the entries as they were. -/
theorem Parks.entries_remove {t t' : HandleTable α} {listener : α} {h : Handle}
    (hparks : t.Parks listener h t') : (t'.remove h).entries = t.entries := by
  refine SortedMap.ext_find? fun h' => ?_
  rw [find?_remove]
  split
  · next heq => rw [heq, hparks.free]
  · next hne => rw [hparks.find?, if_neg hne]

/-! ## Other listeners under the same handles -/

section Map

variable {β : Type}

/-- The table with what `f` makes of each listener. -/
def map (f : α → β) (t : HandleTable α) : HandleTable β where
  name := t.name
  capacity := t.capacity
  entries := t.entries.mapValues fun _ => f
  next := t.next
  next_lt := t.next_lt
  entries_lt e he := by
    obtain ⟨e', he', rfl⟩ := List.mem_map.1 he
    exact t.entries_lt e' he'

/-- Under each handle the other listener is found. -/
theorem find?_map (f : α → β) (t : HandleTable α) (h : Handle) :
    (t.map f).entries.find? h = (t.entries.find? h).map f :=
  SortedMap.find?_mapValues t.entries (fun _ => f) h

/-- Other listeners are as many. -/
@[simp] theorem size_map (f : α → β) (t : HandleTable α) : (t.map f).size = t.size :=
  List.length_map ..

/-- Other listeners have the same handles. -/
@[simp] theorem handles_map (f : α → β) (t : HandleTable α) : (t.map f).handles = t.handles :=
  List.map_map ..

/-- Other listeners use the same handles. -/
@[simp] theorem contains_map (f : α → β) (t : HandleTable α) (h : Handle) :
    (t.map f).contains h = t.contains h := by
  rw [contains, contains, SortedMap.contains_eq_isSome, SortedMap.contains_eq_isSome, find?_map,
    Option.isSome_map]

/-- The first free handle does not depend on what the listeners are. -/
@[simp] theorem firstFree_map (f : α → β) (t : HandleTable α) :
    (t.map f).firstFree = t.firstFree := by
  -- the search only asks which handles are in use
  have hprobe : ∀ (steps : Nat) (h : Handle), (t.map f).probe steps h = t.probe steps h := by
    intro steps
    induction steps with
    | zero => exact fun h => rfl
    | succ steps ih =>
      intro h
      rw [probe, probe, contains_map, ih]
      rfl
  rw [firstFree, firstFree, size_map, hprobe]
  rfl

/-- Two tables with the same entries and the same counter are the same table. -/
private theorem eq_of_entries_eq {t t' : HandleTable α} (hname : t.name = t'.name)
    (hcapacity : t.capacity = t'.capacity) (hentries : t.entries = t'.entries)
    (hnext : t.next = t'.next) : t = t' := by
  cases t
  cases t'
  cases hname
  cases hcapacity
  cases hentries
  cases hnext
  rfl

/-- To remove a listener and to exchange them all can be done in either order. -/
theorem remove_map (f : α → β) (t : HandleTable α) (h : Handle) :
    (t.map f).remove h = (t.remove h).map f :=
  eq_of_entries_eq rfl rfl (SortedMap.mapValues_erase ..).symm rfl

/-- To look a listener up and to exchange them all can be done in either order. -/
theorem lookup_map (f : α → β) (t : HandleTable α) (h : Handle) :
    (t.map f).lookup h = (t.lookup h).map f := by
  rw [lookup, lookup, find?_map]
  cases t.entries.find? h with
  | some listener => rfl
  | none => rfl

/-- To register a listener and to exchange them all can be done in either order. -/
theorem register_map (f : α → β) (t : HandleTable α) (listener : α) :
    (t.map f).register (f listener) = (t.register listener).map fun r => (r.1, r.2.map f) := by
  by_cases hfull : t.capacity ≤ t.size
  · have hfull' : (t.map f).capacity ≤ (t.map f).size := by rwa [size_map]
    rw [register, register, if_pos hfull, if_pos hfull']
    rfl
  · have hfull' : ¬ (t.map f).capacity ≤ (t.map f).size := by rwa [size_map]
    rw [register, register, if_neg hfull, if_neg hfull']
    -- both walks end at the same handle, and both counters go behind it
    refine congrArg Except.ok (Prod.ext (firstFree_map f t) (eq_of_entries_eq rfl rfl ?_ ?_))
    · dsimp only
      rw [firstFree_map]
      exact (SortedMap.mapValues_insert t.entries (fun _ => f) t.firstFree listener).symm
    · dsimp only
      rw [firstFree_map]
      rfl

/-- To release a listener and to exchange them all can be done in either order. -/
theorem release_map (f : α → β) (t : HandleTable α) (h : Handle) :
    (t.map f).release h = (t.release h).map fun r => (f r.1, r.2.map f) := by
  rw [release, release, lookup_map]
  cases t.lookup h with
  | ok listener => exact congrArg (fun t' => Except.ok (f listener, t')) (remove_map f t h)
  | error fault => rfl

/-- What a table knows its listeners by is not changed by `f`. -/
theorem releaseIf_map (f : α → β) (t : HandleTable α) (h : Handle) {accepts : α → Bool}
    {accepts' : β → Bool} (haccepts : ∀ listener, accepts' (f listener) = accepts listener) :
    (t.map f).releaseIf h accepts' =
      ((t.releaseIf h accepts).1.map f, (t.releaseIf h accepts).2.map f) := by
  rw [releaseIf, releaseIf, find?_map]
  cases t.entries.find? h with
  | none => rfl
  | some listener =>
    dsimp only [Option.map_some]
    rw [haccepts]
    split
    · rw [remove_map]
      rfl
    · rfl

end Map

/-! ## The first round -/

namespace InFirstRound

variable {t : HandleTable α}

/-- An unused table is in its first round. -/
theorem ofName (name : String) : (HandleTable.ofName name : HandleTable α).InFirstRound := by
  intro h listener hl
  cases hl

/-- In the first round there are no more listeners than handles given out. -/
theorem size_le (ht : t.InFirstRound) : t.size ≤ t.next := by
  have hle := t.size_le_of_subset (l := List.range t.next) fun h hh => by
    obtain ⟨listener, hfind⟩ := (t.contains_iff h).1 hh
    exact List.mem_range.2 (ht h listener hfind)
  rwa [List.length_range] at hle

/-- In the first round no handle from the counter on is in use. -/
theorem find?_eq_none (ht : t.InFirstRound) {h : Handle} (hh : t.next ≤ h) :
    t.entries.find? h = none := by
  cases hf : t.entries.find? h with
  | none => rfl
  | some listener => exact absurd (ht h listener hf) (Nat.not_lt.2 hh)

/-- In the first round the first free handle is the one at the counter. -/
theorem firstFree (ht : t.InFirstRound) : t.firstFree = t.next := by
  have hfree : t.contains t.next = false := by
    rw [contains, SortedMap.contains_eq_isSome, ht.find?_eq_none (Nat.le_refl _)]
    rfl
  rw [HandleTable.firstFree]
  cases t.size with
  | zero => rfl
  | succ n => rw [probe, hfree]; rfl

/-- A new listener gets the handle at the counter, and the counter goes on by one. -/
theorem register (ht : t.InFirstRound) (hroom : t.next + 1 < t.capacity) (listener : α) :
    ∃ t' : HandleTable α, t.register listener = .ok (t.next, t') ∧ t'.InFirstRound ∧
      t'.next = t.next + 1 ∧ t'.capacity = t.capacity ∧
      ∀ h, t'.entries.find? h = if h = t.next then some listener else t.entries.find? h := by
  -- no more handles are in use than the counter has passed
  have hnotFull : ¬ t.capacity ≤ t.size :=
    Nat.not_le.2 (Nat.lt_of_le_of_lt ht.size_le (Nat.lt_of_succ_lt hroom))
  have hnext : t.successor t.firstFree = t.next + 1 := by
    rw [ht.firstFree]
    exact Nat.mod_eq_of_lt hroom
  have hfind : ∀ h, (t.entries.insert t.firstFree listener).find? h =
      if h = t.next then some listener else t.entries.find? h := by
    intro h
    rw [SortedMap.find?_insert, ht.firstFree]
  rw [HandleTable.register, if_neg hnotFull]
  refine ⟨_, congrArg Except.ok (Prod.ext ht.firstFree rfl), ?_, hnext, rfl, hfind⟩
  intro h l hl
  dsimp only at hl ⊢
  rw [hnext]
  rw [hfind] at hl
  split at hl
  · next heq => exact heq ▸ Nat.lt_succ_self _
  · exact Nat.lt_succ_of_lt (ht h l hl)

/-- A listener that goes leaves the counter where it is. -/
theorem remove (ht : t.InFirstRound) (h : Handle) : (t.remove h).InFirstRound := by
  intro h' listener hl
  rw [find?_remove] at hl
  split at hl
  · cases hl
  · exact ht h' listener hl

end InFirstRound

end PathSpace.HandleTable
