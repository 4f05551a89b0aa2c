import PathSpace.Routing.Router
import PathSpace.Proofs.Fault.Computation
/-!
# What the operations of the router do

Each operation either is refused, and then at most the arranged failure has changed, or it
is carried out, and then it does one thing.  There is one lemma for each operation; whoever
follows the router through an operation needs no more than this lemma.

## Key results

- `EndsIn`: what is known of an operation that is carried out or refused
- `begin_cases`: the checks at the beginning change nothing but the arranged failure
- `write_cases`, `pull_cases`, `query_cases` and the others: the two ways an operation ends
-/

namespace PathSpace.Router

open PathSpace.Computation
open Text (Bytes)

variable {r : Router} {s : SessionId} {h : Handle}

/-- An operation was refused; it used up one arranged failure at most. -/
def Refuses (op : Routing α) (r : Router) : Prop :=
  ∃ fault failure, op.run r = (.error fault, { r with failure })

/-- An operation is carried out, and then the router is as `P` says, or it is refused. -/
def EndsIn (op : Routing Unit) (r : Router) (P : Router → Prop) : Prop :=
  (∃ r', op.run r = (.ok (), r') ∧ P r') ∨ Refuses op r

namespace EndsIn

variable {op : Routing Unit} {r' : Router} {P Q : Router → Prop}

/-- A call that is done or refuses ends as it is done. -/
theorem of_cases (h : op.run r = (.ok (), r') ∨ Refuses op r) (hP : P r') : EndsIn op r P :=
  h.imp_left fun hok => ⟨r', hok, hP⟩

/-- What follows from the end of a call is an end as well. -/
theorem mono (h : EndsIn op r P) (hPQ : ∀ r', P r' → Q r') : EndsIn op r Q := by
  rcases h with ⟨r', hok, hP⟩ | hrefused
  · exact .inl ⟨r', hok, hPQ r' hP⟩
  · exact .inr hrefused

/-- A call that went through has ended so. -/
theorem of_run_ok (h : EndsIn op r P) (hok : op.run r = (.ok (), r')) : P r' := by
  rcases h with ⟨r₁, hok₁, hP⟩ | ⟨fault, failure, herr⟩
  · rw [hok, Prod.mk.injEq] at hok₁
    exact hok₁.2 ▸ hP
  · rw [hok, Prod.mk.injEq] at herr
    cases herr.1

/-- An operation that fails was refused. -/
theorem of_run_error {fault : TransportFault} (h : EndsIn op r P)
    (herr : op.run r = (.error fault, r')) : ∃ failure, r' = { r with failure } := by
  rcases h with ⟨r₁, hok, -⟩ | ⟨fault₁, failure, herr₁⟩
  · rw [herr, Prod.mk.injEq] at hok
    cases hok.1
  · rw [herr, Prod.mk.injEq] at herr₁
    exact ⟨failure, herr₁.2⟩

end EndsIn

/-- The check passes without a change, or it refuses. -/
theorem checkFailure_cases (r : Router) :
    checkFailure.run r = (.ok (), r) ∨ Refuses checkFailure r := by
  rw [Refuses, checkFailure, run_bind, run_get]
  cases hf : r.failure with
  | none => exact .inl (by simp only [hf, run_pure])
  | some f => exact .inr ⟨_, _, by simp only [hf, run_bind, run_modify, run_throw]; rfl⟩

/-- The checks at the beginning change nothing but the arranged failure. -/
theorem begin_cases (s : SessionId) (r : Router) :
    ((begin s).run r = (.ok (), r) ∧ r.isClosed s = false) ∨ Refuses (begin s) r := by
  rw [Refuses, begin, run_bind, run_get]
  cases hc : r.isClosed s with
  | true =>
    refine .inr ⟨.closed, r.failure, ?_⟩
    simp only [hc, if_true, run_bind, run_throw]
  | false =>
    simp only [hc, Bool.false_eq_true, if_false]
    rcases checkFailure_cases r with h | h
    · exact .inl ⟨h, trivial⟩
    · exact .inr h

/-- An operation that begins with the checks is refused where they refuse it. -/
private theorem begin_bind_cases (s : SessionId) (r : Router) (rest : Unit → Routing α) :
    (begin s >>= rest).run r = (rest ()).run r ∨ Refuses (begin s >>= rest) r := by
  rw [Refuses, run_bind]
  rcases begin_cases s r with ⟨h, -⟩ | ⟨fault, failure, h⟩
  · exact .inl (by rw [h])
  · exact .inr ⟨fault, failure, by rw [h]⟩

/-! ## Sessions -/

/-- The router with one session more. -/
def withLink (r : Router) (locator user : Option String) : Router :=
  { r with
    links := r.links.insert r.nextSession ⟨locator.getD defaultLocator, user, false⟩
    nextSession := r.nextSession + 1 }

/-- A session is opened with the next number, or it is refused. -/
theorem openLink_cases (locator user : Option String) (r : Router) :
    (openLink locator user).run r = (.ok r.nextSession, r.withLink locator user) ∨
      Refuses (openLink locator user) r := by
  -- once the locator is accepted, only an arranged failure can be in the way
  have hopen : ∀ op : Routing SessionId, (op = do
        checkFailure
        let r ← get
        set (r.withLink locator user)
        return r.nextSession) →
      op.run r = (.ok r.nextSession, r.withLink locator user) ∨ Refuses op r := by
    rintro _ rfl
    rw [Refuses, run_bind]
    rcases checkFailure_cases r with h | ⟨fault, failure, h⟩
    · exact .inl (by simp only [h, run_bind, run_get, run_set, run_pure])
    · exact .inr ⟨fault, failure, by rw [h]⟩
  unfold openLink
  cases locator with
  | none => exact hopen _ rfl
  | some l =>
    by_cases hl : scheme.toList.isPrefixOf l.toList
    · simp only [hl, Bool.not_true, Bool.false_eq_true, if_false]
      exact hopen _ rfl
    · refine .inr ⟨.invalidLocator l, r.failure, ?_⟩
      simp only [hl, Bool.not_false, if_true, run_bind, run_throw]

/-- The router once a session is closed. -/
def withoutLink (r : Router) (s : SessionId) : Router :=
  { r with
    links := r.links.mapValues fun k l => if k = s then { l with closed := true } else l
    subscribers := r.subscribers.filter (·.session != s)
    storages := r.storages.filter (·.session != s)
    evals := r.evals.filter (·.session != s) }

/-- An open session is closed, whatever failure has been arranged. -/
theorem closeLink_run (s : SessionId) (r : Router) :
    (closeLink s).run r =
      if r.isClosed s then (.error .closed, r) else (.ok (), r.withoutLink s) := by
  rw [closeLink, run_bind, run_get]
  cases hc : r.isClosed s with
  | true => simp only [hc, if_true, run_bind, run_throw]
  | false =>
    simp only [hc, Bool.false_eq_true, if_false, run_modify]
    rfl

/-- A session is closed, or it is refused. -/
theorem closeLink_cases (s : SessionId) (r : Router) :
    (closeLink s).run r = (.ok (), r.withoutLink s) ∨ Refuses (closeLink s) r := by
  rw [Refuses, closeLink_run]
  cases r.isClosed s with
  | true => exact .inr ⟨.closed, r.failure, rfl⟩
  | false => exact .inl rfl

/-! ## Writing -/

/-- The sample that a write becomes. -/
def stamped (r : Router) (wall : Instant) (path : String) (payload : Bytes) (e : Encoding)
    (kind : ChangeKind) : Sample :=
  ⟨path, payload, ⟨some (r.clock.now wall).1, some e, some kind.toByte⟩⟩

/-- The router once the clock has been read. -/
def ticked (r : Router) (wall : Instant) : Router := { r with clock := (r.clock.now wall).2 }

/-- The router once a sample has been sent to all whom it concerns. -/
def routed (r : Router) (sample : Sample) : Router :=
  { r with
    queue := r.queue ++ r.writeJobs sample
    subscribers := r.subscribers.map (keepPending sample) }

/-- A sample that is kept for a subscriber leaves it declared as it was. -/
theorem map_keepPending (sample : Sample) (ds : List SubscriberDeclaration) :
    (ds.map (keepPending sample)).map (·.toDeclaration) = ds.map (·.toDeclaration) := by
  rw [List.map_map]
  refine List.map_congr_left fun d _ => ?_
  rw [Function.comp_apply, keepPending]
  split <;> rfl

/-- A write is stamped and passed on, or it is refused. -/
theorem write_cases (s : SessionId) (wall : Instant) (path : String) (payload : Bytes)
    (e : Encoding) (kind : ChangeKind) (r : Router) :
    (write s wall path payload e kind).run r =
        (.ok (), (r.ticked wall).routed (r.stamped wall path payload e kind)) ∨
      Refuses (write s wall path payload e kind) r := by
  rcases begin_bind_cases s r _ with hrest | hrefused
  · -- the reading is a variable here, so that nobody computes with it
    have hnow : ∀ reading : Timestamp × Clock, r.clock.now wall = reading →
        (write s wall path payload e kind).run r = (.ok (),
          ({ r with clock := reading.2 } : Router).routed
            ⟨path, payload, ⟨some reading.1, some e, some kind.toByte⟩⟩) := by
      rintro ⟨stamp, clock⟩ hnow
      rw [write, hrest, run_modify]
      simp only [hnow]
      rfl
    exact .inl (hnow _ rfl)
  · exact .inr hrefused

/-! ## Declaring -/

/-- A subscriber is entered at the end of the list, or it is refused. -/
theorem declareSubscriber_cases (s : SessionId) (expression : String) (mode : SubMode) (h : Handle)
    (r : Router) :
    (declareSubscriber s expression mode h).run r =
        (.ok (), { r with
          subscribers := r.subscribers ++ [{ session := s, handle := h, expression, mode }] }) ∨
      Refuses (declareSubscriber s expression mode h) r :=
  begin_bind_cases s r _

/-- A storage is entered at the end of the list, or it is refused. -/
theorem declareStorage_cases (s : SessionId) (expression : String) (h : Handle) (r : Router) :
    (declareStorage s expression h).run r =
        (.ok (), { r with storages := r.storages ++ [⟨s, h, expression⟩] }) ∨
      Refuses (declareStorage s expression h) r :=
  begin_bind_cases s r _

/-- An eval is entered at the end of the list, or it is refused. -/
theorem declareEval_cases (s : SessionId) (expression : String) (h : Handle) (r : Router) :
    (declareEval s expression h).run r =
        (.ok (), { r with evals := r.evals ++ [⟨s, h, expression⟩] }) ∨
      Refuses (declareEval s expression h) r :=
  begin_bind_cases s r _

/-! ## Taking back -/

/-- Behind the checks a declaration is taken away if it is found; otherwise the operation is
refused. -/
private theorem begin_remove_cases (s : SessionId) (h : Handle) (found : Router → Bool)
    (remove : Router → Router) (r : Router) :
    let op : Routing Unit := do
      begin s
      if found (← get) then modify remove else throw (.unknownDeclaration h)
    op.run r = (.ok (), remove r) ∨ Refuses op r := by
  intro op
  rcases begin_bind_cases s r _ with hrest | hrefused
  · rw [Refuses, hrest, run_bind, run_get]
    -- what was not found is refused as unknown
    cases hd : found r with
    | true => exact .inl (by simp only [hd, if_true, run_modify])
    | false =>
      refine .inr ⟨.unknownDeclaration h, r.failure, ?_⟩
      simp only [hd, Bool.false_eq_true, if_false, run_throw]
  · exact .inr hrefused

/-- A subscriber is taken off the list, or it is refused. -/
theorem undeclareSubscriber_cases (s : SessionId) (h : Handle) (r : Router) :
    (undeclareSubscriber s h).run r =
        (.ok (), { r with subscribers := r.subscribers.filter fun d => !d.isOf s h }) ∨
      Refuses (undeclareSubscriber s h) r :=
  begin_remove_cases s h (·.subscribers.any (·.isOf s h)) _ r

/-- A storage is taken off the list, or it is refused. -/
theorem undeclareStorage_cases (s : SessionId) (h : Handle) (r : Router) :
    (undeclareStorage s h).run r =
        (.ok (), { r with storages := r.storages.filter fun d => !d.isOf s h }) ∨
      Refuses (undeclareStorage s h) r :=
  begin_remove_cases s h (·.storages.any (·.isOf s h)) _ r

/-- An eval is taken off the list, or it is refused. -/
theorem undeclareEval_cases (s : SessionId) (h : Handle) (r : Router) :
    (undeclareEval s h).run r =
        (.ok (), { r with evals := r.evals.filter fun d => !d.isOf s h }) ∨
      Refuses (undeclareEval s h) r :=
  begin_remove_cases s h (·.evals.any (·.isOf s h)) _ r

/-! ## Asking -/

/-- The router once a subscriber has been sent what waited for it. -/
def pulled (r : Router) (d : SubscriberDeclaration) (s : SessionId) (h : Handle) : Router :=
  { r with
    subscribers := changeFirst s h (fun d => { d with pending := [] }) r.subscribers
    queue := r.queue ++ d.pending.map fun sample => .subscriber s h sample }

/-- What is changed of one subscriber is not what it has declared. -/
theorem map_changeFirst (s : SessionId) (h : Handle)
    {f : SubscriberDeclaration → SubscriberDeclaration}
    (hf : ∀ d, (f d).toDeclaration = d.toDeclaration) (ds : List SubscriberDeclaration) :
    (changeFirst s h f ds).map (·.toDeclaration) = ds.map (·.toDeclaration) := by
  induction ds with
  | nil => rfl
  | cons d rest ih =>
    rw [changeFirst]
    split
    · rw [List.map_cons, List.map_cons, hf]
    · rw [List.map_cons, List.map_cons, ih]

/-- What was kept for the subscriber is sent, or the pull is refused. -/
theorem pull_cases (s : SessionId) (h : Handle) (r : Router) :
    (∃ d, r.subscribers.find? (·.isOf s h) = some d ∧
        (pull s h).run r = (.ok (), r.pulled d s h)) ∨
      Refuses (pull s h) r := by
  rcases begin_bind_cases s r _ with hrest | hrefused
  · rw [Refuses, pull, hrest, run_bind, run_get]
    cases hd : r.subscribers.find? (·.isOf s h) with
    | some d => exact .inl ⟨d, rfl, by simp only [hd, run_modify]; rfl⟩
    | none =>
      refine .inr ⟨.unknownDeclaration h, r.failure, ?_⟩
      simp only [hd, run_throw]
  · exact .inr hrefused

/-- The query that a session asks. -/
def queryOf (r : Router) (s : SessionId) (expression optionalPart : String) (h : Handle) :
    Query where
  querier := s
  handle := h
  expression := expression
  optionalPart := optionalPart
  stamping := r.stampReplies
  sources := sourcesFor .storage expression r.storages ++ sourcesFor .eval expression r.evals

/-- A query is put into the queue, or it is refused. -/
theorem query_cases (s : SessionId) (expression optionalPart : String) (h : Handle) (r : Router) :
    (query s expression optionalPart h).run r =
        (.ok (), { r with queue := r.queue ++ [.query (r.queryOf s expression optionalPart h)] }) ∨
      Refuses (query s expression optionalPart h) r :=
  begin_bind_cases s r _

end PathSpace.Router
