import PathSpace.Network.Storage
import PathSpace.Network.Workspace
import PathSpace.Proofs.Network.Boards
import PathSpace.Proofs.Routing.Operations
/-!
# What the operations of a session do

An operation of a session asks the router, and the router accepts or refuses.  These lemmas
say in what state the network is then.

## Key results

- `openAsked_run`, `openAsked_cases`: an operation that only asks the router
- `declare_run`, `declare_cases`: a listener is parked, and taken back if the router refuses
- `undeclare_run`, `undeclare_cases`: the router is asked first, and then the listener goes
- `query_run`, `MemoryStorage.declare_run`: what is numbered when a query or a memory storage is
  declared
- `find?_of_query`: the listener of a query waits
-/

namespace PathSpace.Session

open PathSpace.Computation
open Text (Bytes)

variable {α : Type} {n : Network} {s : SessionId}

/-- The network with another router. -/
def withRouter (n : Network) (r : Router) : Network := { n with router := r }

@[simp] theorem withRouter_router (n : Network) (r : Router) : (withRouter n r).router = r := rfl

@[simp] theorem withRouter_board (n : Network) (r : Router) (s : SessionId) :
    (withRouter n r).board s = n.board s := rfl

@[simp] theorem withRouter_gatherings (n : Network) (r : Router) :
    (withRouter n r).gatherings = n.gatherings := rfl

/-- A closed session is refused, an open one goes on. -/
theorem ensureOpen_run (s : SessionId) (operation : String) (n : Network) :
    (ensureOpen s operation).run n =
      if isClosed n s then (.error (.sessionClosed operation), n) else (.ok (), n) := by
  rw [ensureOpen, run_bind, run_get]
  dsimp only
  split <;> rfl

/-- The router is asked, and its faults are told with the operation and the resource. -/
theorem ask_run (operation resource : String) (op : Routing α) (n : Network) :
    (ask operation resource op).run n =
      ((op.run n.router).1.mapError (.transport operation resource),
        withRouter n (op.run n.router).2) := rfl

/-- An operation that first sees whether the session is open, and then asks the router. -/
theorem openAsked_run (op : Network → Routing Unit) {operation resource : String}
    {act : Action Unit}
    (hact : act = do
      ensureOpen s operation
      let n ← get
      ask operation resource (op n)) (n : Network) :
    act.run n =
      if isClosed n s then (.error (.sessionClosed operation), n)
      else (((op n).run n.router).1.mapError (.transport operation resource),
        withRouter n ((op n).run n.router).2) := by
  rw [hact, run_bind, ensureOpen_run]
  cases isClosed n s with
  | true => rfl
  | false => exact ask_run operation resource (op n) n

/-- What can come of an operation that only asks the router. -/
inductive Asked (op : Routing Unit) (act : Action Unit) (n : Network) : Prop
  | done (r : Router) (hok : op.run n.router = (.ok (), r))
      (hrun : act.run n = (.ok (), withRouter n r)) : Asked op act n
  | refused (fault : TransportFault) (r : Router) (e : Error)
      (herr : op.run n.router = (.error fault, r))
      (hrun : act.run n = (.error e, withRouter n r)) : Asked op act n
  /-- The session is closed, and the router was not asked. -/
  | untried (e : Error) (hrun : act.run n = (.error e, n)) : Asked op act n

/-- A call that asks the router if its session is open does so, is refused, or is not tried. -/
theorem openAsked_cases (op : Network → Routing Unit) {operation resource : String}
    {act : Action Unit}
    (hact : act = do
      ensureOpen s operation
      let n ← get
      ask operation resource (op n)) (n : Network) : Asked (op n) act n := by
  have hrun := openAsked_run op hact n
  -- a closed session does not come to the router
  cases hclosed : isClosed n s with
  | true =>
    rw [hclosed, if_pos rfl] at hrun
    exact .untried _ hrun
  | false =>
    rw [hclosed, if_neg Bool.false_ne_true] at hrun
    rcases hop : (op n).run n.router with ⟨fault | ⟨⟩, r⟩
    · rw [hop] at hrun
      exact .refused fault r _ hop hrun
    · rw [hop] at hrun
      exact .done r hop hrun

/-- A write asks the router. -/
theorem write_cases (s : SessionId) (path : Path) (payload : Bytes) (e : Encoding)
    (kind : ChangeKind) (n : Network) :
    Asked (Router.write s n.around.wall path.text payload e kind) (write s path payload e kind) n :=
  openAsked_cases (fun n => Router.write s n.around.wall path.text payload e kind) rfl n

/-- A pull asks the router. -/
theorem pull_cases (s : SessionId) (sub : Subscriber) (n : Network) :
    Asked (Router.pull s sub.handle) (pull s sub) n :=
  openAsked_cases (fun _ => Router.pull s sub.handle) rfl n

/-- To close a session asks the router. -/
theorem close_cases (s : SessionId) (n : Network) : Asked (Router.closeLink s) (close s) n :=
  openAsked_cases (fun _ => Router.closeLink s) rfl n

/-- An open session is closed, whatever failure has been arranged. -/
theorem close_run (s : SessionId) (n : Network) :
    (close s).run n =
      if isClosed n s then (.error (.sessionClosed "Close"), n)
      else (.ok (), withRouter n (n.router.withoutLink s)) := by
  rw [close, run_bind, ensureOpen, run_bind, run_get]
  cases hc : isClosed n s with
  | true => simp only [hc, if_true, run_throw]
  | false =>
    have hrouter : n.router.isClosed s = false := hc
    simp only [hc, Bool.false_eq_true, if_false, run_pure, ask_run, Router.closeLink_run, hrouter]
    rfl

/-- To open a session asks the router, and puts up an empty board. -/
theorem openSession_run (locator : Option String) (properties : Properties) (n : Network) :
    (openSession locator properties).run n =
      match (Router.openLink locator (properties.find? "user")).run n.router with
      | (.ok session, r) => (.ok session, (withRouter n r).setBoard session {})
      | (.error fault, r) =>
        (.error (.transport "Open" (locator.getD "<default>") fault), withRouter n r) := by
  rw [openSession, run_bind, ask_run]
  rcases (Router.openLink locator (properties.find? "user")).run n.router with
    ⟨fault | session, r⟩ <;> rfl

/-- A session is opened with no listeners, or the router refuses. -/
theorem openSession_cases (locator : Option String) (properties : Properties) (n : Network) :
    (openSession locator properties).run n =
        (.ok n.router.nextSession,
          (withRouter n (n.router.withLink locator (properties.find? "user"))).setBoard
            n.router.nextSession {}) ∨
      ∃ failure e, (openSession locator properties).run n =
        (.error e, withRouter n { n.router with failure }) := by
  rw [openSession_run]
  rcases Router.openLink_cases locator (properties.find? "user") n.router with
    hok | ⟨fault, failure, herr⟩
  · rw [hok]
    exact .inl rfl
  · rw [herr]
    exact .inr ⟨failure, _, rfl⟩

/-! ## Declaring and taking back -/

/-- The network with another table in a tray of a session. -/
def withTable (n : Network) (tray : Tray α) (s : SessionId) (t : HandleTable α) : Network :=
  n.setBoard s (tray.replace (n.board s) t)

/-- A listener is parked under the next handle, if there is one. -/
theorem park_run (tray : Tray α) (s : SessionId) (listener : α) (n : Network) :
    (park tray s listener).run n =
      match (tray.table (n.board s)).register listener with
      | .error fault => (.error (.ofHandleFault fault), n)
      | .ok (h, t) => (.ok h, withTable n tray s t) := by
  unfold park
  rw [run_bind, run_get]
  rcases hreg : (tray.table (n.board s)).register listener with fault | ⟨h, t⟩
  · simp only [hreg]
    rfl
  · simp only [hreg]
    rfl

/-- A listener is parked and declared; if the router refuses, the listener is taken back. -/
theorem declare_run (tray : Tray α) (s : SessionId) (operation resource : String)
    (listener : α) (op : Handle → Routing Unit) (n : Network) :
    (declare tray s operation resource listener op).run n =
      if isClosed n s then (.error (.sessionClosed operation), n)
      else
        match (tray.table (n.board s)).register listener with
        | .error fault => (.error (.ofHandleFault fault), n)
        | .ok (h, t) =>
          match (op h).run n.router with
          | (.ok (), r) => (.ok h, withRouter (withTable n tray s t) r)
          | (.error fault, r) =>
            (.error (.transport operation resource fault),
              take tray s h (withRouter (withTable n tray s t) r)) := by
  rw [declare, run_bind, ensureOpen_run]
  cases isClosed n s with
  | true => rfl
  | false =>
    simp only [Bool.false_eq_true, if_false, run_bind, park_run]
    rcases (tray.table (n.board s)).register listener with fault | ⟨h, t⟩
    · rfl
    -- the listener is parked before the router is asked
    · have hrouter : (withTable n tray s t).router = n.router := rfl
      simp only [run_tryCatch, run_bind, ask_run, hrouter]
      rcases (op h).run n.router with ⟨fault | -, r⟩ <;> rfl

/-- To declare goes through, or is refused after the listener was parked, or is not tried. -/
theorem declare_cases (tray : Tray α) (s : SessionId) (operation resource : String)
    (listener : α) (op : Handle → Routing Unit) (n : Network) :
    (∃ h t r, isClosed n s = false ∧ (tray.table (n.board s)).register listener = .ok (h, t) ∧
        (op h).run n.router = (.ok (), r) ∧
        (declare tray s operation resource listener op).run n =
          (.ok h, withRouter (withTable n tray s t) r)) ∨
      (∃ h t fault r e, isClosed n s = false ∧
        (tray.table (n.board s)).register listener = .ok (h, t) ∧
        (op h).run n.router = (.error fault, r) ∧
        (declare tray s operation resource listener op).run n =
          (.error e, take tray s h (withRouter (withTable n tray s t) r))) ∨
      ∃ e, (declare tray s operation resource listener op).run n = (.error e, n) := by
  rw [declare_run]
  cases hopen : isClosed n s with
  | true => exact .inr (.inr ⟨_, rfl⟩)
  | false =>
    rw [if_neg Bool.false_ne_true]
    rcases (tray.table (n.board s)).register listener with fault | ⟨h, t⟩
    · exact .inr (.inr ⟨_, rfl⟩)
    · dsimp only
      rcases hop : (op h).run n.router with ⟨fault | ⟨⟩, r⟩
      · exact .inr (.inl ⟨h, t, fault, r, _, rfl, rfl, hop, rfl⟩)
      · exact .inl ⟨h, t, r, rfl, rfl, hop, rfl⟩

/-- The router is asked first, and then the listener goes. -/
theorem undeclare_run (tray : Tray α) (s : SessionId) (operation resource : String) (h : Handle)
    (op : Routing Unit) (n : Network) :
    (undeclare tray s operation resource h op).run n =
      if isClosed n s then (.error (.sessionClosed operation), n)
      else if (tray.table (n.board s)).contains h then
        match op.run n.router with
        | (.ok (), r) => (.ok (), take tray s h (withRouter n r))
        | (.error fault, r) => (.error (.transport operation resource fault), withRouter n r)
      else (.error (.notRegistered (tray.table (n.board s)).name resource), n) := by
  rw [undeclare, run_bind, ensureOpen_run]
  cases isClosed n s with
  | true => rfl
  | false =>
    simp only [Bool.false_eq_true, if_false, run_bind, run_get]
    -- only a handle in use comes to the router
    cases hcon : (tray.table (n.board s)).contains h with
    | false =>
      simp only [Bool.not_false, if_true, run_bind, run_throw, Bool.false_eq_true, if_false]
    | true =>
      simp only [Bool.not_true, Bool.false_eq_true, if_false, if_true, run_bind, ask_run]
      rcases op.run n.router with ⟨fault | -, r⟩ <;> rfl

/-- To undeclare goes through, or is refused, or is not tried. -/
theorem undeclare_cases (tray : Tray α) (s : SessionId) (operation resource : String) (h : Handle)
    (op : Routing Unit) (n : Network) :
    (∃ r, isClosed n s = false ∧ op.run n.router = (.ok (), r) ∧
        (undeclare tray s operation resource h op).run n =
          (.ok (), take tray s h (withRouter n r))) ∨
      (∃ fault r e, op.run n.router = (.error fault, r) ∧
        (undeclare tray s operation resource h op).run n = (.error e, withRouter n r)) ∨
      ∃ e, (undeclare tray s operation resource h op).run n = (.error e, n) := by
  rw [undeclare_run]
  cases hopen : isClosed n s with
  | true => exact .inr (.inr ⟨_, rfl⟩)
  | false =>
    rw [if_neg Bool.false_ne_true]
    split
    · rcases op.run n.router with ⟨fault | -, r⟩
      · exact .inr (.inl ⟨fault, r, _, rfl, rfl⟩)
      · exact .inl ⟨r, rfl, rfl, rfl⟩
    · exact .inr (.inr ⟨_, rfl⟩)

/-- A query parks its listener with a token of its own. -/
theorem query_run (s : SessionId) (sel : Selector)
    (l : Surroundings → ReplyEvent → Script Effect) (n : Network) :
    (query s sel l).run n =
      (((declare .replies s "Query" sel.path ⟨n.tokens, l⟩
          (Router.query s sel.path sel.optionalPart)).run
            { n with tokens := n.tokens + 1 }).1.map fun h => ⟨h, n.tokens⟩,
        ((declare .replies s "Query" sel.path ⟨n.tokens, l⟩
          (Router.query s sel.path sel.optionalPart)).run { n with tokens := n.tokens + 1 }).2) :=
  run_bind_pure _ _ _

/-- The listener of a query that was sent waits under its handle. -/
theorem find?_of_query {sel : Selector} {l : Surroundings → ReplyEvent → Script Effect}
    {p : PendingQuery} {m : Network} (h : (query s sel l).run n = (.ok p, m)) :
    (m.board s).replies.entries.find? p.handle = some ⟨p.token, l⟩ := by
  rw [query_run] at h
  rcases declare_cases .replies s "Query" sel.path ⟨n.tokens, l⟩
    (Router.query s sel.path sel.optionalPart) { n with tokens := n.tokens + 1 } with
    ⟨handle, t, r, -, hreg, -, hrun⟩ | ⟨handle, t, fault, r, e, -, -, -, hrun⟩ | ⟨e, hrun⟩
  · rw [hrun] at h
    obtain ⟨hp, rfl⟩ := Prod.mk.inj h
    obtain rfl := Except.ok.inj hp
    rw [withRouter_board, withTable, Network.board_setBoard_self]
    -- the listener that was parked is that of the query
    exact ((HandleTable.parks_of_register hreg).find? handle).trans (if_pos rfl)
  · rw [hrun] at h
    cases h
  · rw [hrun] at h
    cases h

end PathSpace.Session

namespace PathSpace.MemoryStorage

open PathSpace.Computation

/-- A memory storage is declared with a store of its own. -/
theorem declare_run (s : SessionId) (sel : Selector) (n : Network) :
    (declare s sel).run n =
      (((Session.declareStorage s sel (listener n.nextStore)).run
          { n with nextStore := n.nextStore + 1 }).1.map fun storage => ⟨s, storage, n.nextStore⟩,
        ((Session.declareStorage s sel (listener n.nextStore)).run
          { n with nextStore := n.nextStore + 1 }).2) :=
  run_bind_pure _ _ _

end PathSpace.MemoryStorage
