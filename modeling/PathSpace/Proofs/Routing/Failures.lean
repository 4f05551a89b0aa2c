import PathSpace.Proofs.Routing.Operations
/-!
# Arranged failures

A failure that has been arranged for the next operations is met by each operation that gets
past the checks of its session: the operation fails with it, and one failure less is left.
An operation that finds none does not fail in that way, and arranges none.

## Key results

- `arranged`, `spend`: failures that have been arranged, and what one operation leaves of them
- `Meets`: an operation meets the arranged failure, or finds none
- `meets_write`, `meets_pull` and the others: all operations but closing do
- `answer_of_found`: taking a declaration back that is there fails with an arranged failure only
- `closed_run`: an operation of a closed session does not get so far
-/

namespace PathSpace.Router

open PathSpace.Computation
open Text (Bytes)

variable {r : Router} {s : SessionId} {α : Type}

/-- The failure that is arranged for the next `count` operations. -/
def arranged (count : Nat) (code : Int32) (name : String) : Option ArrangedFailure :=
  if count = 0 then none else some ⟨count, code, name⟩

/-- What is left of an arranged failure when one operation has met it. -/
def spend (failure : Option ArrangedFailure) : Option ArrangedFailure :=
  failure.bind fun f =>
    if f.remaining ≤ 1 then none else some { f with remaining := f.remaining - 1 }

/-- One failure of those that are arranged is used up. -/
theorem spend_arranged (count : Nat) (code : Int32) (name : String) :
    spend (arranged count code name) = arranged (count - 1) code name := by
  by_cases hzero : count = 0
  · subst hzero
    rfl
  · rw [arranged, if_neg hzero, arranged]
    -- the last of them leaves nothing behind
    by_cases hlast : count ≤ 1
    · have hnone : count - 1 = 0 := by omega
      simp [spend, hlast, hnone]
    · have hmore : ¬ count - 1 = 0 := by omega
      simp [spend, hlast, hmore]

/-- An operation fails with the arranged failure, uses it up by one and changes nothing else;
if none is arranged, it does not fail in that way. -/
structure Meets (op : Routing α) (r : Router) : Prop where
  spent : (op.run r).2.failure = spend r.failure
  fails : ∀ f, r.failure = some f →
    op.run r = (.error (.failed f.code f.name), { r with failure := spend r.failure })
  unharmed : r.failure = none → ∀ code name, (op.run r).1 ≠ .error (.failed code name)

/-- An operation has nothing to do with arranged failures. -/
structure Harmless (op : Routing α) : Prop where
  failure : ∀ r, (op.run r).2.failure = r.failure
  unharmed : ∀ r code name, (op.run r).1 ≠ .error (.failed code name)

/-- Without an arranged failure the check passes. -/
private theorem checkFailure_of_none (h : r.failure = none) : checkFailure.run r = (.ok (), r) := by
  rw [checkFailure, run_bind, run_get]
  simp only [h, run_pure]

/-- With an arranged failure the check fails and uses it up. -/
private theorem checkFailure_of_some {f : ArrangedFailure} (h : r.failure = some f) :
    checkFailure.run r =
      (.error (.failed f.code f.name), { r with failure := spend r.failure }) := by
  rw [checkFailure, run_bind, run_get]
  simp only [h, run_bind, run_modify, run_throw]
  rfl

/-- The check for failures is the only thing that can fail with one. -/
private theorem meets_checkFailure_bind {rest : Unit → Routing α} (hrest : Harmless (rest ()))
    (r : Router) : Meets (checkFailure >>= rest) r := by
  cases hf : r.failure with
  -- nothing is arranged: what comes after the check decides
  | none =>
    have hrun : (checkFailure >>= rest).run r = (rest ()).run r := by
      rw [run_bind, checkFailure_of_none hf]
    refine ⟨?_, fun f h => ?_, fun _ code name => ?_⟩
    · rw [hrun, hrest.failure, hf]
      rfl
    · rw [hf] at h
      cases h
    · rw [hrun]
      exact hrest.unharmed r code name
  | some f =>
    have hrun : (checkFailure >>= rest).run r =
        (.error (.failed f.code f.name), { r with failure := spend r.failure }) := by
      rw [run_bind, checkFailure_of_some hf]
    refine ⟨by rw [hrun], fun f' h => ?_, fun h => ?_⟩
    · rw [hf, Option.some.injEq] at h
      rw [hrun, h]
    · rw [hf] at h
      cases h

/-- A call that begins with the checks meets the failures, whatever harmless comes after them. -/
private theorem meets_begin_bind {rest : Unit → Routing α} (hrest : Harmless (rest ()))
    (hopen : r.isClosed s = false) : Meets (begin s >>= rest) r := by
  have hrun : ∀ r' : Router, r' = r →
      (begin s >>= rest).run r' = (checkFailure >>= rest).run r' := by
    rintro _ rfl
    rw [run_bind, begin, run_bind, run_get, run_bind]
    simp only [hopen, Bool.false_eq_true, if_false]
  have hmeets := meets_checkFailure_bind hrest r
  constructor
  · rw [hrun r rfl]
    exact hmeets.spent
  · rw [hrun r rfl]
    exact hmeets.fails
  · rw [hrun r rfl]
    exact hmeets.unharmed

/-- An operation of a closed session does not get as far as the check for failures. -/
theorem closed_run (rest : Unit → Routing α) (hclosed : r.isClosed s = true) :
    (begin s >>= rest).run r = (.error .closed, r) := by
  rw [run_bind, begin, run_bind, run_get]
  simp only [hclosed, if_true, run_bind, run_throw]

/-! ## What comes after the checks -/

/-- A change that leaves the arranged failure alone is harmless. -/
private theorem harmless_modify {f : Router → Router} (hf : ∀ r, (f r).failure = r.failure) :
    Harmless (modify f : Routing PUnit) where
  failure := hf
  unharmed _ _ _ := nofun

/-- Something is looked up, and what is not found is unknown. -/
private theorem harmless_if {p : Router → Bool} {h : Handle} {f : Router → Router}
    (hf : ∀ r, (f r).failure = r.failure) :
    Harmless
      (do if p (← get) then modify f else throw (.unknownDeclaration h) : Routing PUnit) where
  failure r := by
    rw [run_bind, run_get]
    dsimp only
    split
    · exact hf r
    · rfl
  -- a declaration that is not found is no failure of the transport
  unharmed r code name := by
    rw [run_bind, run_get]
    dsimp only
    split
    · exact nofun
    · rw [run_throw]
      exact nofun

/-- What an operation is told if nothing but an arranged failure is in its way. -/
def answerAmid : Option ArrangedFailure → Except TransportFault Unit
  | none => .ok ()
  | some f => .error (.failed f.code f.name)

/-- What is there is found, unless a failure has been arranged. -/
theorem answer_of_found {p : Router → Bool} {h : Handle} {f : Router → Router}
    (hf : ∀ r, (f r).failure = r.failure) (hopen : r.isClosed s = false) (hp : p r = true) :
    ((do
        begin s
        if p (← get) then modify f else throw (.unknownDeclaration h) : Routing PUnit).run r).1 =
      answerAmid r.failure := by
  cases hfailure : r.failure with
  -- the arranged failure comes before the declaration is looked for
  | some failure =>
    have hmeets := @meets_begin_bind r s _ (fun _ => _) (harmless_if (p := p) (h := h) hf) hopen
    rw [hmeets.fails failure hfailure]
    rfl
  | none =>
    rw [run_bind, begin, run_bind, run_get]
    simp only [hopen, Bool.false_eq_true, if_false]
    rw [checkFailure_of_none hfailure]
    simp only [run_bind, run_get, hp, if_true, run_modify]
    rfl

/-- The clock goes on whatever has been arranged. -/
theorem ticked_failure (r : Router) (wall : Instant) : (r.ticked wall).failure = r.failure := by
  unfold ticked
  -- the reading is a variable here, so that nobody computes with it
  generalize r.clock.now wall = reading
  rfl

/-! ## The operations -/

/-- A write meets the failures. -/
theorem meets_write (hopen : r.isClosed s = false) (wall : Instant) (path : String)
    (payload : Bytes) (e : Encoding) (kind : ChangeKind) :
    Meets (write s wall path payload e kind) r :=
  meets_begin_bind (harmless_modify fun r => r.ticked_failure wall) hopen

/-- To declare a subscriber meets the failures. -/
theorem meets_declareSubscriber (hopen : r.isClosed s = false) (expression : String)
    (mode : SubMode) (h : Handle) : Meets (declareSubscriber s expression mode h) r :=
  meets_begin_bind (harmless_modify fun _ => rfl) hopen

/-- To declare a storage meets the failures. -/
theorem meets_declareStorage (hopen : r.isClosed s = false) (expression : String) (h : Handle) :
    Meets (declareStorage s expression h) r :=
  meets_begin_bind (harmless_modify fun _ => rfl) hopen

/-- To declare an eval meets the failures. -/
theorem meets_declareEval (hopen : r.isClosed s = false) (expression : String) (h : Handle) :
    Meets (declareEval s expression h) r :=
  meets_begin_bind (harmless_modify fun _ => rfl) hopen

/-- To undeclare a subscriber meets the failures. -/
theorem meets_undeclareSubscriber (hopen : r.isClosed s = false) (h : Handle) :
    Meets (undeclareSubscriber s h) r :=
  meets_begin_bind (harmless_if fun _ => rfl) hopen

/-- To undeclare a storage meets the failures. -/
theorem meets_undeclareStorage (hopen : r.isClosed s = false) (h : Handle) :
    Meets (undeclareStorage s h) r :=
  meets_begin_bind (harmless_if fun _ => rfl) hopen

/-- To undeclare an eval meets the failures. -/
theorem meets_undeclareEval (hopen : r.isClosed s = false) (h : Handle) :
    Meets (undeclareEval s h) r :=
  meets_begin_bind (harmless_if fun _ => rfl) hopen

/-- A declaration that is there is taken back, unless a failure has been arranged. -/
theorem answer_undeclareSubscriber (hopen : r.isClosed s = false) {h : Handle}
    (hd : r.subscribers.any (·.isOf s h) = true) :
    ((undeclareSubscriber s h).run r).1 = answerAmid r.failure :=
  answer_of_found (fun _ => rfl) hopen hd

/-- A storage that is declared can be taken back, unless a failure is arranged. -/
theorem answer_undeclareStorage (hopen : r.isClosed s = false) {h : Handle}
    (hd : r.storages.any (·.isOf s h) = true) :
    ((undeclareStorage s h).run r).1 = answerAmid r.failure :=
  answer_of_found (fun _ => rfl) hopen hd

/-- An eval that is declared can be taken back, unless a failure is arranged. -/
theorem answer_undeclareEval (hopen : r.isClosed s = false) {h : Handle}
    (hd : r.evals.any (·.isOf s h) = true) :
    ((undeclareEval s h).run r).1 = answerAmid r.failure :=
  answer_of_found (fun _ => rfl) hopen hd

/-- A pull meets the failures. -/
theorem meets_pull (hopen : r.isClosed s = false) (h : Handle) : Meets (pull s h) r := by
  refine meets_begin_bind ⟨fun r => ?_, fun r code name => ?_⟩ hopen
  · rw [run_bind, run_get]
    dsimp only
    split <;> rfl
  · rw [run_bind, run_get]
    dsimp only
    split
    · rw [run_throw]
      exact nofun
    · exact nofun

/-- A query meets the failures. -/
theorem meets_query (hopen : r.isClosed s = false) (expression optionalPart : String)
    (h : Handle) : Meets (query s expression optionalPart h) r :=
  meets_begin_bind (harmless_modify fun _ => rfl) hopen

/-- Whether a locator is one of this transport. -/
def knowsLocator (locator : Option String) : Bool :=
  locator.all fun l => scheme.toList.isPrefixOf l.toList

/-- To open a session meets the failures, if the locator is known. -/
theorem meets_openLink {locator : Option String} (hlocator : knowsLocator locator = true)
    (user : Option String) (r : Router) : Meets (openLink locator user) r := by
  have hrest : Harmless (do
      let r ← get
      set { r with
        links := r.links.insert r.nextSession ⟨locator.getD defaultLocator, user, false⟩
        nextSession := r.nextSession + 1 }
      return r.nextSession : Routing SessionId) :=
    ⟨fun _ => rfl, fun _ _ _ => nofun⟩
  have hmeets := @meets_checkFailure_bind _ (fun _ => _) hrest r
  -- the scheme is checked before the arranged failure
  cases locator with
  | none => exact hmeets
  | some l =>
    have hknown : scheme.toList.isPrefixOf l.toList = true := hlocator
    unfold openLink
    simp only [hknown, Bool.not_true, Bool.false_eq_true, if_false]
    exact hmeets

/-- A locator that makes no sense is refused before anything else. -/
theorem openLink_of_not_known {locator : Option String} (hlocator : knowsLocator locator = false)
    (user : Option String) (r : Router) :
    ∃ l, (openLink locator user).run r = (.error (.invalidLocator l), r) := by
  cases locator with
  | none => cases hlocator
  | some l =>
    have hknown : scheme.toList.isPrefixOf l.toList = false := hlocator
    refine ⟨l, ?_⟩
    unfold openLink
    simp only [hknown, Bool.not_false, if_true, run_bind, run_throw]

end PathSpace.Router
