/-!
# Operations that may fail

Operations on the router and on the network may fail, and what they changed before they
failed stays changed.  These are the equations by which such an operation is followed step
by step.

## Key results

- `run_bind`: the second part of an operation starts where the first one ended
- `run_tryCatch`: whoever catches an error goes on where it arose
-/

namespace PathSpace.Computation

universe u

variable {ε σ α β : Type u}

theorem run_pure (a : α) (s : σ) : (pure a : ExceptT ε (StateM σ) α).run s = (.ok a, s) := rfl

theorem run_throw (e : ε) (s : σ) :
    (throw e : ExceptT ε (StateM σ) α).run s = (.error e, s) := rfl

theorem run_get (s : σ) : (get : ExceptT ε (StateM σ) σ).run s = (.ok s, s) := rfl

theorem run_set (s' s : σ) :
    (set s' : ExceptT ε (StateM σ) PUnit).run s = (.ok ⟨⟩, s') := rfl

theorem run_modify (f : σ → σ) (s : σ) :
    (modify f : ExceptT ε (StateM σ) PUnit).run s = (.ok ⟨⟩, f s) := rfl

/-- The second part of an operation starts where the first one ended. -/
theorem run_bind (x : ExceptT ε (StateM σ) α) (f : α → ExceptT ε (StateM σ) β) (s : σ) :
    (x >>= f).run s =
      match x.run s with
      | (.ok a, s') => (f a).run s'
      | (.error e, s') => (.error e, s') := by
  change ExceptT.bindCont f (x.run s).1 (x.run s).2 = _
  rcases x.run s with ⟨a | e, s'⟩ <;> rfl

/-- A result that is only rearranged leaves the state as it is. -/
theorem run_bind_pure (x : ExceptT ε (StateM σ) α) (f : α → β) (s : σ) :
    (x >>= fun a => pure (f a)).run s = ((x.run s).1.map f, (x.run s).2) := by
  rw [run_bind]
  rcases x.run s with ⟨a | e, s'⟩ <;> rfl

/-- A result may be rearranged twice. -/
theorem map_map {γ : Type u} (x : Except ε α) (f : α → β) (g : β → γ) :
    (x.map f).map g = x.map fun a => g (f a) := by
  cases x <;> rfl

/-- A result that is rearranged is an error if it was one. -/
theorem error_of_map {x : Except ε α} {f : α → β} {e : ε} (h : x.map f = .error e) :
    x = .error e := by
  cases x with
  | error e' => exact congrArg Except.error (Except.error.inj h)
  | ok a => cases h

/-- A result that is rearranged was there before. -/
theorem exists_of_map_eq_ok {x : Except ε α} {f : α → β} {b : β} (h : f <$> x = .ok b) :
    ∃ a, x = .ok a ∧ f a = b := by
  cases x with
  | error e => cases h
  | ok a => exact ⟨a, rfl, Except.ok.inj h⟩

/-- A result of two parts is there if both parts have one. -/
theorem exists_of_bind_eq_ok {x : Except ε α} {f : α → Except ε β} {b : β}
    (h : x >>= f = .ok b) : ∃ a, x = .ok a ∧ f a = .ok b := by
  cases x with
  | error e => cases h
  | ok a => exact ⟨a, rfl, h⟩

/-- A result that is only rearranged was there before, and left the same state. -/
theorem exists_of_run_bind_pure {x : ExceptT ε (StateM σ) α} {f : α → β} {b : β} {s s' : σ}
    (h : (x >>= fun a => pure (f a)).run s = (.ok b, s')) :
    ∃ a, x.run s = (.ok a, s') ∧ f a = b := by
  rw [run_bind_pure, Prod.mk.injEq] at h
  obtain ⟨a, ha, hb⟩ := exists_of_map_eq_ok h.1
  exact ⟨a, Prod.ext ha h.2, hb⟩

/-- Whoever catches an error goes on where it arose. -/
theorem run_tryCatch (x : ExceptT ε (StateM σ) α) (f : ε → ExceptT ε (StateM σ) α) (s : σ) :
    (tryCatch x f).run s =
      match x.run s with
      | (.ok a, s') => (.ok a, s')
      | (.error e, s') => (f e).run s' := by
  change (match (x.run s).1 with
    | Except.ok a => (pure (Except.ok a) : StateM σ _)
    | Except.error e => (f e).run) (x.run s).2 = _
  rcases x.run s with ⟨a | e, s'⟩ <;> rfl

/-- A result that was there already changes nothing. -/
theorem run_liftExcept (x : Except ε α) (s : σ) :
    (liftM x : ExceptT ε (StateM σ) α).run s = (x, s) := by
  cases x <;> rfl

end PathSpace.Computation
