import PathSpace.Proofs.Listening.HandleTable
import Mathlib.Data.Finmap
/-!
# A table of listeners is a finite map

The counter of a `HandleTable` and its walk over the handles in use decide which handle a
listener gets, and nothing else.  Apart from that choice, a table answers every call as a
finite map from handles to listeners does.

## Key results

- `Call.Means`: what a call means for a finite map
- `Stands.run`: a table and the map it stands for agree on every call
- `HandleTable.transcript_of_map`: so they do in every run from an empty table
-/

namespace PathSpace

variable {α : Type}

/-- A finite map from handles to listeners. -/
abbrev HandleMap (α : Type) := Finmap fun _ : Handle => α

namespace HandleTable

/-! ## Calls -/

/-- A call to a table. -/
inductive Call (α : Type) where
  | register (listener : α)
  | lookup (h : Handle)
  | release (h : Handle)
  | releaseIf (h : Handle) (accepts : α → Bool)
  | contains (h : Handle)
  | size
  | isEmpty

/-- What a call gives back. -/
inductive Answer (α : Type) where
  | parked (result : Except HandleFault Handle)
  | found (result : Except HandleFault α)
  | taken (result : Option α)
  | flag (b : Bool)
  | number (n : Nat)

namespace Call

/-- Calls a table. -/
def run (t : HandleTable α) : Call α → Answer α × HandleTable α
  | .register listener =>
    match t.register listener with
    | .ok (h, t') => (.parked (.ok h), t')
    | .error fault => (.parked (.error fault), t)
  | .lookup h => (.found (t.lookup h), t)
  | .release h =>
    match t.release h with
    | .ok (listener, t') => (.found (.ok listener), t')
    | .error fault => (.found (.error fault), t)
  | .releaseIf h accepts =>
    let (listener, t') := t.releaseIf h accepts
    (.taken listener, t')
  | .contains h => (.flag (t.contains h), t)
  | .size => (.number t.size, t)
  | .isEmpty => (.flag t.isEmpty, t)

/-- What a call means for a finite map in a table of that name with that many handles: what it
answers and which map it leaves.  Only the handle of a new listener is left open. -/
def Means (name : String) (capacity : Nat) (m : HandleMap α) :
    Call α → Answer α → HandleMap α → Prop
  | .register listener, answer, m' =>
    if m.keys.card = capacity then
      answer = .parked (.error (.exhausted name capacity)) ∧ m' = m
    else
      ∃ h, h < capacity ∧ h ∉ m ∧ answer = .parked (.ok h) ∧ m' = m.insert h listener
  | .lookup h, answer, m' =>
    m' = m ∧
      match m.lookup h with
      | some listener => answer = .found (.ok listener)
      | none => answer = .found (.error (.unknown name h))
  | .release h, answer, m' =>
    match m.lookup h with
    | some listener => answer = .found (.ok listener) ∧ m' = m.erase h
    | none => answer = .found (.error (.unknown name h)) ∧ m' = m
  | .releaseIf h accepts, answer, m' =>
    match (m.lookup h).filter accepts with
    | some listener => answer = .taken (some listener) ∧ m' = m.erase h
    | none => answer = .taken none ∧ m' = m
  | .contains h, answer, m' => answer = .flag (decide (h ∈ m)) ∧ m' = m
  | .size, answer, m' => answer = .number m.keys.card ∧ m' = m
  | .isEmpty, answer, m' => answer = .flag (decide (m.keys = ∅)) ∧ m' = m

end Call

/-! ## One call -/

/-- A table stands for the finite map in which every handle has the same listener. -/
structure Stands (t : HandleTable α) (m : HandleMap α) : Prop where
  lookup_eq : ∀ h, m.lookup h = t.entries.find? h

namespace Stands

variable {t : HandleTable α} {m : HandleMap α}

private theorem mem_iff (ht : t.Stands m) (h : Handle) : h ∈ m ↔ t.contains h = true := by
  rw [Finmap.mem_iff, t.contains_iff, ht.lookup_eq]

private theorem card_keys (ht : t.Stands m) : m.keys.card = t.size := by
  have hkeys : m.keys = t.handles.toFinset := by
    ext h
    rw [Finmap.mem_keys, List.mem_toFinset, t.mem_handles_iff, ht.mem_iff]
  rw [hkeys, List.toFinset_card_of_nodup t.nodup_handles, t.length_handles]

private theorem keys_eq_empty_iff (ht : t.Stands m) : m.keys = ∅ ↔ t.size = 0 := by
  rw [← ht.card_keys, Finset.card_eq_zero]

private theorem insert (ht : t.Stands m) {t' : HandleTable α} {h : Handle} {listener : α}
    (hentries : t'.entries = t.entries.insert h listener) : t'.Stands (m.insert h listener) where
  lookup_eq h' := by
    rw [hentries, SortedMap.find?_insert]
    split
    · next heq => rw [heq, Finmap.lookup_insert]
    · next hne => rw [Finmap.lookup_insert_of_ne m hne, ht.lookup_eq]

private theorem remove (ht : t.Stands m) (h : Handle) : (t.remove h).Stands (m.erase h) where
  lookup_eq h' := by
    rw [find?_remove]
    split
    · next heq => rw [heq, Finmap.lookup_erase]
    · next hne => rw [Finmap.lookup_erase_ne hne, ht.lookup_eq]

/-- A new listener finds a free handle unless all are in use. -/
private theorem register (ht : t.Stands m) (listener : α) :
    ∃ m', (Call.register listener).Means t.name t.capacity m
        ((Call.register listener).run t).1 m' ∧
      ((Call.register listener).run t).2.Stands m' := by
  by_cases hfull : t.capacity ≤ t.size
  · have hcard : m.keys.card = t.capacity :=
      ht.card_keys.trans (Nat.le_antisymm t.size_le_capacity hfull)
    refine ⟨m, ?_, ?_⟩
    · dsimp only [Call.Means, Call.run, HandleTable.register]
      rw [if_pos hcard, if_pos hfull]
      exact ⟨rfl, rfl⟩
    · dsimp only [Call.run, HandleTable.register]
      rwa [if_pos hfull]
  -- there is room, so the first free handle is given out
  · have hroom : t.size < t.capacity := Nat.lt_of_not_le hfull
    have hcard : m.keys.card ≠ t.capacity := ht.card_keys ▸ Nat.ne_of_lt hroom
    have hfree : t.firstFree ∉ m := by
      rw [ht.mem_iff, t.not_contains_firstFree hroom]
      exact Bool.false_ne_true
    refine ⟨m.insert t.firstFree listener, ?_, ?_⟩
    · dsimp only [Call.Means, Call.run, HandleTable.register]
      rw [if_neg hcard, if_neg hfull]
      exact ⟨t.firstFree, t.firstFree_lt, hfree, rfl, rfl⟩
    · dsimp only [Call.run, HandleTable.register]
      rw [if_neg hfull]
      exact ht.insert rfl

/-- A call answers what it means for the map, and the table stands for the map that is left. -/
theorem run (ht : t.Stands m) (call : Call α) :
    ∃ m', call.Means t.name t.capacity m (call.run t).1 m' ∧ (call.run t).2.Stands m' := by
  -- only a registration or a release changes the map
  cases call with
  | register listener => exact ht.register listener
  | lookup h =>
    refine ⟨m, ⟨rfl, ?_⟩, ht⟩
    rw [ht.lookup_eq]
    dsimp only [Call.run, HandleTable.lookup]
    cases t.entries.find? h <;> rfl
  | release h =>
    unfold Call.Means Call.run HandleTable.release HandleTable.lookup
    dsimp only
    rw [ht.lookup_eq]
    cases t.entries.find? h with
    | some listener => exact ⟨m.erase h, ⟨rfl, rfl⟩, ht.remove h⟩
    | none => exact ⟨m, ⟨rfl, rfl⟩, ht⟩
  | releaseIf h accepts =>
    unfold Call.Means Call.run HandleTable.releaseIf
    dsimp only
    rw [ht.lookup_eq]
    cases t.entries.find? h with
    | none => exact ⟨m, ⟨rfl, rfl⟩, ht⟩
    | some listener =>
      dsimp only
      rw [Option.filter_some]
      cases accepts listener with
      | true => exact ⟨m.erase h, ⟨rfl, rfl⟩, ht.remove h⟩
      | false => exact ⟨m, ⟨rfl, rfl⟩, ht⟩
  | contains h =>
    refine ⟨m, ⟨congrArg Answer.flag ?_, rfl⟩, ht⟩
    rw [Bool.eq_iff_iff, decide_eq_true_iff, ht.mem_iff]
  | size => exact ⟨m, ⟨congrArg Answer.number ht.card_keys.symm, rfl⟩, ht⟩
  | isEmpty =>
    refine ⟨m, ⟨congrArg Answer.flag ?_, rfl⟩, ht⟩
    rw [Bool.eq_iff_iff, decide_eq_true_iff, ht.keys_eq_empty_iff, HandleTable.isEmpty, beq_iff_eq]

end Stands

/-! ## Runs -/

/-- No call changes what the table is called or how many handles it has. -/
theorem frame_run (t : HandleTable α) (call : Call α) :
    (call.run t).2.name = t.name ∧ (call.run t).2.capacity = t.capacity := by
  cases call with
  | register listener =>
    dsimp only [Call.run, HandleTable.register]
    by_cases hfull : t.capacity ≤ t.size
    · rw [if_pos hfull]
      exact ⟨rfl, rfl⟩
    · rw [if_neg hfull]
      exact ⟨rfl, rfl⟩
  | release h =>
    dsimp only [Call.run, HandleTable.release]
    cases t.lookup h <;> exact ⟨rfl, rfl⟩
  | releaseIf h accepts =>
    dsimp only [Call.run, HandleTable.releaseIf]
    cases t.entries.find? h with
    | none => exact ⟨rfl, rfl⟩
    | some listener =>
      dsimp only
      cases accepts listener <;> exact ⟨rfl, rfl⟩
  | lookup | contains | size | isEmpty => exact ⟨rfl, rfl⟩

/-- Calls with their answers, and the table that is left. -/
def transcript (t : HandleTable α) : List (Call α) → List (Call α × Answer α) × HandleTable α
  | [] => ([], t)
  | call :: rest =>
    let (answer, t') := call.run t
    let (answers, last) := transcript t' rest
    ((call, answer) :: answers, last)

/-- Calls with answers that a finite map gives, and the map that is left. -/
inductive MapRun (name : String) (capacity : Nat) :
    HandleMap α → List (Call α × Answer α) → HandleMap α → Prop
  | nil (m) : MapRun name capacity m [] m
  | cons {m m' m'' call answer rest} (step : call.Means name capacity m answer m')
      (tail : MapRun name capacity m' rest m'') : MapRun name capacity m ((call, answer) :: rest) m''

/-- A table stands for its map in every run. -/
private theorem Stands.transcript {t : HandleTable α} {m : HandleMap α} (ht : t.Stands m)
    (calls : List (Call α)) :
    ∃ m', MapRun t.name t.capacity m (t.transcript calls).1 m' ∧
      (t.transcript calls).2.Stands m' := by
  induction calls generalizing t m with
  | nil => exact ⟨m, .nil m, ht⟩
  | cons call rest ih =>
    obtain ⟨m', hstep, ht'⟩ := ht.run call
    obtain ⟨m'', htail, hlast⟩ := ih ht'
    rw [(t.frame_run call).1, (t.frame_run call).2] at htail
    exact ⟨m'', .cons hstep htail, hlast⟩

/-- In every sequence of calls a table answers as a finite map from handles to listeners does,
and in the end it holds the entries of that map. -/
theorem transcript_of_map (name : String) (capacity : Nat) (calls : List (Call α)) :
    ∃ m, MapRun name (max capacity 1) ∅ ((ofCapacity name capacity).transcript calls).1 m ∧
      ((ofCapacity name capacity).transcript calls).2.Stands m := by
  have hempty : (ofCapacity name capacity : HandleTable α).Stands ∅ :=
    ⟨fun h => Finmap.lookup_empty h⟩
  exact hempty.transcript calls

end HandleTable

end PathSpace
