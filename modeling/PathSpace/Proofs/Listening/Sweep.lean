import PathSpace.Proofs.Listening.HandleMap
/-!
# How late a handle comes back

The counter of a table runs through the handles cyclically, and it passes a handle only while that
handle is in use.  So before a handle is given out again, the counter has gone all the way round,
and every other handle has been in use in the meantime.

## Key results

- `exists_firstFree_eq`: a new listener gets the first free handle from the counter on
- `Swept.run`: what the counter passes during a run has been in use during the run
- `others_used_between`: between two listeners with the same handle all other handles are used
-/

namespace PathSpace.HandleTable

variable {α : Type} {t : HandleTable α}

/-! ## The walk from the counter -/

/-- A new listener gets the first free handle from the counter on. -/
theorem exists_firstFree_eq (t : HandleTable α) :
    ∃ passed, t.firstFree = (t.next + passed) % t.capacity ∧
      ∀ i < passed, t.contains ((t.next + i) % t.capacity) = true := by
  obtain ⟨passed, -, hend, hpassed, -⟩ := t.exists_probe_eq t.size t.next_lt
  exact ⟨passed, hend, hpassed⟩

/-- A table that is full refuses a new listener; otherwise the counter goes behind its handle. -/
private theorem run_register_cases (t : HandleTable α) (listener : α) :
    ((Call.register listener).run t = (.parked (.error (.exhausted t.name t.capacity)), t)) ∨
      ∃ t', (Call.register listener).run t = (.parked (.ok t.firstFree), t') ∧
        t'.next = t.successor t.firstFree ∧ t'.contains t.firstFree = true := by
  dsimp only [Call.run, register]
  by_cases hfull : t.capacity ≤ t.size
  · rw [if_pos hfull]
    exact .inl rfl
  · rw [if_neg hfull]
    refine .inr ⟨_, rfl, rfl, ?_⟩
    rw [contains_iff]
    exact ⟨listener, SortedMap.find?_insert_self _ _ _⟩

/-- A registration gives the first free handle, and the counter goes to the one behind it. -/
private theorem of_run_register {t' : HandleTable α} {listener : α} {h : Handle}
    (hrun : (Call.register listener).run t = (.parked (.ok h), t')) :
    h = t.firstFree ∧ t'.next = t.successor h := by
  obtain hfull | ⟨t'', hrun', hnext, -⟩ := t.run_register_cases listener
  · cases hrun.symm.trans hfull
  · cases hrun.symm.trans hrun'
    exact ⟨rfl, hnext⟩

/-- Only a new listener moves the counter. -/
private theorem next_run_of_ne_register {call : Call α}
    (hcall : ∀ listener, call ≠ .register listener)
    (t : HandleTable α) : (call.run t).2.next = t.next := by
  -- a release leaves a gap, but does not move the counter
  cases call with
  | register listener => exact absurd rfl (hcall listener)
  | release h =>
    dsimp only [Call.run, release]
    cases t.lookup h <;> rfl
  | releaseIf h accepts =>
    dsimp only [Call.run, releaseIf]
    cases t.entries.find? h with
    | none => rfl
    | some listener =>
      dsimp only
      cases accepts listener <;> rfl
  | lookup | contains | size | isEmpty => rfl

/-! ## The sweep of the counter -/

/-- The counter has gone on from `start`, perhaps several times round, and every handle that it
passed has been `used`. -/
def Swept (start : Handle) (used : Handle → Prop) (t : HandleTable α) : Prop :=
  ∃ passed, t.next = (start + passed) % t.capacity ∧
    ∀ i < passed, used ((start + i) % t.capacity)

/-- The tables at all moments of a run, from the first one on. -/
def moments (t : HandleTable α) : List (Call α) → List (HandleTable α)
  | [] => [t]
  | call :: rest => t :: moments (call.run t).2 rest

private theorem mem_moments_self (t : HandleTable α) (calls : List (Call α)) :
    t ∈ t.moments calls := by
  cases calls <;> exact List.mem_cons_self

private theorem mem_moments_last (t : HandleTable α) (calls : List (Call α)) :
    (t.transcript calls).2 ∈ t.moments calls := by
  induction calls generalizing t with
  | nil => exact List.mem_cons_self
  | cons call rest ih => exact List.mem_cons_of_mem _ (ih _)

theorem capacity_transcript (t : HandleTable α) (calls : List (Call α)) :
    (t.transcript calls).2.capacity = t.capacity := by
  induction calls generalizing t with
  | nil => rfl
  | cons call rest ih => exact (ih _).trans (t.frame_run call).2

namespace Swept

variable {start : Handle} {used : Handle → Prop}

/-- What is in use during a walk has been used, so the walk can be added. -/
private theorem walk (hswept : t.Swept start used) (passed : Nat)
    (h : ∀ i < passed, used ((t.next + i) % t.capacity)) :
    ∃ total, (t.next + passed) % t.capacity = (start + total) % t.capacity ∧
      ∀ i < total, used ((start + i) % t.capacity) := by
  obtain ⟨before, hnext, hbefore⟩ := hswept
  have hshift : ∀ i, (t.next + i) % t.capacity = (start + (before + i)) % t.capacity := by
    intro i
    rw [hnext, Nat.mod_add_mod, Nat.add_assoc]
  refine ⟨before + passed, hshift passed, fun i hi => ?_⟩
  -- a handle was passed before the walk or is passed by it
  by_cases hlt : i < before
  · exact hbefore i hlt
  · have hused := h (i - before) (Nat.sub_lt_left_of_lt_add (Nat.le_of_not_lt hlt) hi)
    rwa [hshift, Nat.add_sub_cancel' (Nat.le_of_not_lt hlt)] at hused

/-- One call leaves the sweep as it is or takes it on to the handle behind the new listener. -/
private theorem call (hswept : t.Swept start used) (call : Call α)
    (hnow : ∀ h, t.contains h = true → used h)
    (hthen : ∀ h, (call.run t).2.contains h = true → used h) : (call.run t).2.Swept start used := by
  by_cases hregister : ∃ listener, call = .register listener
  · obtain ⟨listener, rfl⟩ := hregister
    obtain hfull | ⟨t', hrun, hnext, hparked⟩ := t.run_register_cases listener
    · rwa [hfull]
    · have hcapacity := (t.frame_run (.register listener)).2
      rw [hrun] at hthen hcapacity ⊢
      obtain ⟨passed, hfree, hpassed⟩ := t.exists_firstFree_eq
      -- the search passes handles in use and ends at a free one, which is in use then
      obtain ⟨total, hend, htotal⟩ := hswept.walk (passed + 1) fun i hi => by
        rcases Nat.lt_succ_iff_lt_or_eq.1 hi with hi | rfl
        · exact hnow _ (hpassed i hi)
        · exact hfree ▸ hthen _ hparked
      refine ⟨total, ?_, ?_⟩
      · rw [hnext, hcapacity, ← hend, successor, hfree, Nat.mod_add_mod, Nat.add_assoc]
      · rwa [hcapacity]
  · obtain ⟨passed, hnext, hpassed⟩ := hswept
    have hsame := next_run_of_ne_register (fun l hl => hregister ⟨l, hl⟩) t
    have hcapacity := (t.frame_run call).2
    exact ⟨passed, by rw [hsame, hcapacity, hnext], by rwa [hcapacity]⟩

/-- What the counter passes during a run has been in use at some moment of the run. -/
theorem run (hswept : t.Swept start used) (calls : List (Call α))
    (hused : ∀ t' ∈ t.moments calls, ∀ h, t'.contains h = true → used h) :
    (t.transcript calls).2.Swept start used := by
  induction calls generalizing t with
  | nil => exact hswept
  | cons call rest ih =>
    have hrest : ∀ t' ∈ (call.run t).2.moments rest, ∀ h, t'.contains h = true → used h :=
      fun t' ht' => hused t' (List.mem_cons_of_mem _ ht')
    exact ih (hswept.call call (hused t (mem_moments_self t _))
      (hrest _ (mem_moments_self _ rest))) hrest

end Swept

/-! ## All the way round -/

/-- A way from behind `h` that ends at `h` has gone over all other handles. -/
private theorem exists_lt_of_round {capacity total h h' : Nat} (hlt : h < capacity)
    (hlt' : h' < capacity)
    (hne : h' ≠ h) (hround : (h + 1 + total) % capacity = h) :
    ∃ i < total, (h + 1 + i) % capacity = h' := by
  -- the length of the way, and one more, is a multiple of the capacity
  have hmultiple : total + 1 = capacity * ((h + 1 + total) / capacity) := by
    have hdiv := Nat.div_add_mod (h + 1 + total) capacity
    omega
  have hlong : capacity ≤ total + 1 := by
    rw [hmultiple]
    refine Nat.le_mul_of_pos_right _ (Nat.pos_of_ne_zero fun hzero => ?_)
    rw [hzero] at hmultiple
    exact Nat.succ_ne_zero total hmultiple
  by_cases hahead : h < h'
  · refine ⟨h' - (h + 1), by omega, ?_⟩
    rw [Nat.add_sub_cancel' hahead, Nat.mod_eq_of_lt hlt']
  · refine ⟨capacity - (h + 1) + h', by omega, ?_⟩
    rw [← Nat.add_assoc, Nat.add_sub_cancel' hlt, Nat.add_mod_left, Nat.mod_eq_of_lt hlt']

/-- A handle is given out, then there are other calls, and then the same handle is given out again.
Every other handle was in use at some moment in between, and in the end no handle is free from the
counter up to the one that is given out. -/
theorem others_used_between (t : HandleTable α) {first second : α} {h : Handle}
    {between : List (Call α)} {t₁ t₂ t₃ : HandleTable α}
    (hfirst : (Call.register first).run t = (.parked (.ok h), t₁))
    (hbetween : (t₁.transcript between).2 = t₂)
    (hsecond : (Call.register second).run t₂ = (.parked (.ok h), t₃)) :
    (∀ h' < t.capacity, h' ≠ h → ∃ t' ∈ t₁.moments between, t'.contains h' = true) ∧
      ∃ passed, h = (t₂.next + passed) % t.capacity ∧
        ∀ i < passed, t₂.contains ((t₂.next + i) % t.capacity) = true := by
  have hcapacity₁ : t₁.capacity = t.capacity := by
    rw [← (t.frame_run (.register first)).2, hfirst]
  have hcapacity₂ : t₂.capacity = t.capacity := by
    rw [← hbetween, capacity_transcript, hcapacity₁]
  obtain ⟨rfl, hnext⟩ := of_run_register hfirst
  obtain ⟨hfree, -⟩ := of_run_register hsecond
  obtain ⟨passed, hwalk, hpassed⟩ := t₂.exists_firstFree_eq
  rw [hcapacity₂] at hwalk hpassed
  refine ⟨fun h' hlt' hne => ?_, passed, hfree.trans hwalk, hpassed⟩
  -- behind the first listener the counter has passed nothing yet
  have hswept : t₁.Swept (t.firstFree + 1) fun h' => ∃ t' ∈ t₁.moments between,
      t'.contains h' = true :=
    ⟨0, by rw [hnext, hcapacity₁]; rfl, by simp⟩
  have hswept := hswept.run between fun t' ht' h' hused => ⟨t', ht', hused⟩
  rw [hbetween] at hswept
  obtain ⟨total, hend, htotal⟩ := hswept.walk passed fun i hi =>
    ⟨t₂, hbetween ▸ mem_moments_last t₁ between, hcapacity₂ ▸ hpassed i hi⟩
  rw [hcapacity₂] at hend htotal
  obtain ⟨i, hi, rfl⟩ := exists_lt_of_round t.firstFree_lt hlt' hne
    (hend.symm.trans (hfree.trans hwalk).symm)
  exact htotal i hi

/-! ### Once round three handles -/

/-- A table with three handles. -/
def threeHandles : HandleTable Char := ofCapacity "subscriber" 3

/-- The first listener goes, another one comes and goes, and a third one comes and stays. -/
def onceRound : List (Call Char) :=
  [.release 0, .register 'b', .release 1, .lookup 1, .register 'c', .releaseIf 2 (· == 'b')]

/-- The handle 0 comes back when 1 and 2 have been in use. -/
theorem others_used_of_onceRound :
    ∃ t₁ t₂ t₃, (Call.register 'a').run threeHandles = (.parked (.ok 0), t₁) ∧
      (t₁.transcript onceRound).2 = t₂ ∧
      (Call.register 'd').run t₂ = (.parked (.ok 0), t₃) ∧
      ∀ h < 3, h ≠ 0 → ∃ t' ∈ t₁.moments onceRound, t'.contains h = true := by
  have hfirst : (Call.register 'a').run threeHandles =
      (.parked (.ok 0), ((Call.register 'a').run threeHandles).2) := rfl
  have hsecond : (Call.register 'd').run
        (((Call.register 'a').run threeHandles).2.transcript onceRound).2 =
      (.parked (.ok 0), ((Call.register 'd').run
        (((Call.register 'a').run threeHandles).2.transcript onceRound).2).2) := rfl
  exact ⟨_, _, _, hfirst, rfl, hsecond, (others_used_between threeHandles hfirst rfl hsecond).1⟩

end PathSpace.HandleTable
