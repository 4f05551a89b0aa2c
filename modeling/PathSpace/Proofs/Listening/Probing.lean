import PathSpace.Proofs.Listening.Sweep
/-!
# The search for a free handle

A new listener gets the first free handle from the counter on.  The search for it steps from one
handle to the next as long as it meets handles in use, and has no bound of its own.  It ends all the
same, as a table with room has a free handle within reach, and since all handles stay below the
capacity, it never leaves the words of 64 bits.

## Key results

- `Search.step`: one step of the search, in words
- `Search.iterate_step`: where the search is after so many steps
- `lands_of_transcript`: in a table with room the search ends at the first free handle
-/

namespace PathSpace.HandleTable

variable {α : Type} {t : HandleTable α}

/-! ## The search in words -/

/-- Where the search for a free handle is, in words of 64 bits. -/
inductive Search where
  /-- It looks whether the handle is free. -/
  | trying (h : UInt64)
  | found (h : UInt64)
  /-- An addition did not fit into a word. -/
  | overflowed
  deriving DecidableEq, Repr

/-- One step of the search.  It goes on as long as it meets handles in use, and has no other
bound. -/
def Search.step (t : HandleTable α) (capacity : UInt64) : Search → Search
  | .trying h =>
    if t.contains h.toNat then
      if h.toNat + 1 < UInt64.size then .trying ((h + 1) % capacity) else .overflowed
    else .found h
  | s => s

variable {capacity : UInt64}

private theorem toNat_ofNat_next (hcapacity : capacity.toNat = t.capacity) :
    (UInt64.ofNat t.next).toNat = t.next :=
  UInt64.toNat_ofNat_of_lt' (Nat.lt_trans t.next_lt (hcapacity ▸ capacity.toNat_lt))

/-- There is room for the handle behind each handle of the table. -/
private theorem succ_lt_of_capacity (hcapacity : capacity.toNat = t.capacity) {h : UInt64}
    (hlt : h.toNat < t.capacity) : h.toNat + 1 < UInt64.size :=
  Nat.lt_of_le_of_lt (hcapacity ▸ hlt : h.toNat + 1 ≤ capacity.toNat) capacity.toNat_lt

/-- In words, too, the handle behind another one is found cyclically. -/
private theorem toNat_successor (hcapacity : capacity.toNat = t.capacity) {h : UInt64}
    (hlt : h.toNat < t.capacity) : ((h + 1) % capacity).toNat = t.successor h.toNat := by
  have hfits := succ_lt_of_capacity hcapacity hlt
  rw [UInt64.toNat_mod, UInt64.toNat_add, UInt64.toNat_one, Nat.mod_eq_of_lt hfits, hcapacity,
    successor]

namespace Search

/-- A handle in use is passed over. -/
private theorem step_trying_of_used (hcapacity : capacity.toNat = t.capacity) {h : UInt64}
    (hlt : h.toNat < t.capacity) (hused : t.contains h.toNat = true) :
    step t capacity (.trying h) = .trying ((h + 1) % capacity) := by
  rw [step, if_pos hused, if_pos (succ_lt_of_capacity hcapacity hlt)]

/-- A free handle is found. -/
private theorem step_trying_of_free {h : UInt64} (hfree : t.contains h.toNat = false) :
    step t capacity (.trying h) = .found h := by
  rw [step, hfree, if_neg Bool.false_ne_true]

/-- While it passes handles in use, the search is as far behind its start as it has made steps. -/
theorem iterate_step (hcapacity : capacity.toNat = t.capacity) {start : UInt64}
    (hlt : start.toNat < t.capacity) (passed : Nat)
    (hused : ∀ i < passed, t.contains ((start.toNat + i) % t.capacity) = true) :
    ∃ h, h.toNat = (start.toNat + passed) % t.capacity ∧
      (step t capacity)^[passed] (.trying start) = .trying h := by
  induction passed with
  | zero => exact ⟨start, (Nat.mod_eq_of_lt hlt).symm, rfl⟩
  | succ passed ih =>
    -- `h` is where the search stands before its last step
    obtain ⟨h, hh, hiterate⟩ := ih fun i hi => hused i (Nat.lt_succ_of_lt hi)
    have hlth : h.toNat < t.capacity := hh ▸ Nat.mod_lt _ (Nat.zero_lt_of_lt hlt)
    refine ⟨(h + 1) % capacity, ?_, ?_⟩
    · rw [toNat_successor hcapacity hlth, successor, hh, Nat.mod_add_mod, Nat.add_assoc]
    · rw [Function.iterate_succ_apply', hiterate,
        step_trying_of_used hcapacity hlth (hh ▸ hused passed (Nat.lt_succ_self passed))]

end Search

/-! ## What the search finds -/

private theorem register_of_room (hroom : t.size < t.capacity) (listener : α) :
    ∃ t' : HandleTable α, t.register listener = .ok (t.firstFree, t') ∧
      t'.next = t.successor t.firstFree := by
  rw [register, if_neg (Nat.not_le.2 hroom)]
  exact ⟨_, rfl, rfl⟩

/-- How a new listener gets its handle. -/
structure Lands (t : HandleTable α) (capacity : UInt64) (passed : Nat) (h : UInt64)
    (t' : HandleTable α) : Prop where
  /-- No more handles are passed than are in use. -/
  passed_le : passed ≤ t.size
  /-- Step by step the search tries one handle behind the other, from the counter on. -/
  tries : ∀ i ≤ passed, ∃ word, word.toNat = (t.next + i) % t.capacity ∧
    (Search.step t capacity)^[i] (.trying (UInt64.ofNat t.next)) = .trying word
  finds : (Search.step t capacity)^[passed + 1] (.trying (UInt64.ofNat t.next)) = .found h
  /-- The handle is the first free one, cyclically. -/
  handle_eq : h.toNat = (t.next + passed) % t.capacity
  all_used : ∀ i < passed, t.contains ((t.next + i) % t.capacity) = true
  free : t.contains h.toNat = false
  /-- The counter goes behind the handle, and that fits into a word. -/
  fits : h.toNat + 1 < UInt64.size
  next_eq : t'.next = ((h + 1) % capacity).toNat

/-- In a table with room the search ends at a free handle, which a new listener gets. -/
private theorem exists_lands (hcapacity : capacity.toNat = t.capacity) (hroom : t.size < t.capacity)
    (listener : α) :
    ∃ passed h t', t.Lands capacity passed h t' ∧ t.register listener = .ok (h.toNat, t') := by
  -- a walk of `t.size` steps gets to a free handle, and the search goes the same way
  obtain ⟨passed, hle, hend, hused, -⟩ := t.exists_probe_eq t.size t.next_lt
  have hstart := toNat_ofNat_next hcapacity
  have hlt : (UInt64.ofNat t.next).toNat < t.capacity := hstart.symm ▸ t.next_lt
  have htries : ∀ i ≤ passed, ∃ word, word.toNat = (t.next + i) % t.capacity ∧
      (Search.step t capacity)^[i] (.trying (UInt64.ofNat t.next)) = .trying word := by
    intro i hi
    have hiterate := Search.iterate_step hcapacity hlt i
    rw [hstart] at hiterate
    exact hiterate fun j hj => hused j (Nat.lt_of_lt_of_le hj hi)
  obtain ⟨h, hh, hlast⟩ := htries passed (Nat.le_refl passed)
  have hfirst : t.firstFree = h.toNat := hend.trans hh.symm
  have hfree : t.contains h.toNat = false := hfirst ▸ t.not_contains_firstFree hroom
  have hlth : h.toNat < t.capacity := hfirst ▸ t.firstFree_lt
  have hregister := register_of_room hroom listener
  rw [hfirst] at hregister
  obtain ⟨t', hregister, hnext⟩ := hregister
  -- one more step finds that handle free
  have hfinds : (Search.step t capacity)^[passed + 1] (.trying (UInt64.ofNat t.next)) =
      .found h := by
    rw [Function.iterate_succ_apply', hlast, Search.step_trying_of_free hfree]
  exact ⟨passed, h, t', {
    passed_le := hle
    tries := htries
    finds := hfinds
    handle_eq := hh
    all_used := hused
    free := hfree
    fits := succ_lt_of_capacity hcapacity hlth
    next_eq := by rw [hnext, toNat_successor hcapacity hlth] }, hregister⟩

/-- Whatever calls a table has had, if it has room the search for a free handle ends, after no more
handles than are in use, at the first one that is free, and neither the search nor the counter
leaves the words of 64 bits. -/
theorem lands_of_transcript (name : String) (capacity : UInt64) (calls : List (Call α))
    (ht : ((ofCapacity name capacity.toNat).transcript calls).2 = t) (hroom : t.size < t.capacity)
    (listener : α) :
    ∃ passed h t', t.Lands (max capacity 1) passed h t' ∧
      t.register listener = .ok (h.toNat, t') := by
  have hcapacity : (max capacity 1).toNat = t.capacity := by
    rw [← ht, capacity_transcript, UInt64.toNat_max]
    rfl
  exact exists_lands hcapacity hroom listener

/-! ### Past the last handle -/

/-- Of three handles 1 and 2 are in use, and the counter is at 1. -/
def lastTwoUsed : HandleTable Char :=
  (threeHandles.transcript
    [.register 'a', .register 'b', .register 'c', .release 0, .register 'd', .release 0]).2

/-- The search passes both and goes on at 0. -/
theorem lands_of_lastTwoUsed :
    lastTwoUsed.size < lastTwoUsed.capacity ∧
      ∃ passed h t', lastTwoUsed.Lands 3 passed h t' ∧
        lastTwoUsed.register 'e' = .ok (h.toNat, t') ∧ h.toNat = 0 := by
  have hroom : lastTwoUsed.size < lastTwoUsed.capacity := by decide
  obtain ⟨passed, h, t', hlands, hregister⟩ :=
    lands_of_transcript "subscriber" 3 _ (t := lastTwoUsed) rfl hroom 'e'
  have hhandle : (lastTwoUsed.register 'e').map (·.1) = .ok 0 := rfl
  rw [hregister] at hhandle
  exact ⟨hroom, passed, h, t', hlands, hregister, Except.ok.inj hhandle⟩

end PathSpace.HandleTable
