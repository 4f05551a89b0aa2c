import PathSpace.Proofs.Network.Orderly
/-!
# Operations and runs, as an audience sees them

Every operation, whether it succeeds or not, is a number of moves of the desk of each
audience, and so is every run.

## Key results

- `goes_run`: an operation
- `goes_runAll`: a run
-/

namespace PathSpace

open PathSpace.Computation
open Text (Bytes)

namespace Network

variable {n n' : Network} {a b : Audience} {α : Type}

/-! ## Trays -/

/-- A tray whose tables an audience does not see. -/
def Apart (a : Audience) (tray : Tray α) : Prop :=
  ∀ b t, a.tray.table (tray.replace b t) = a.tray.table b

/-- The table of evals is neither that of the subscribers nor that of the storages. -/
private theorem apart_evals (a : Audience) : Apart a .evals := by
  cases a <;> exact fun _ _ => rfl

/-- The table of pending queries is neither that of the subscribers nor that of the storages. -/
private theorem apart_replies (a : Audience) : Apart a .replies := by
  cases a <;> exact fun _ _ => rfl

/-- The tables of two audiences are different ones. -/
private theorem apart_of_ne (h : b ≠ a) : Apart a b.tray := by
  cases a <;> cases b <;> first | exact fun _ _ => rfl | exact absurd rfl h

/-- A table that is not the audience's own may change without the desk. -/
private theorem desk_withTable_of_apart {tray : Tray α} (h : Apart a tray) (n : Network)
    (s : SessionId)
    (t : HandleTable α) : (Session.withTable n tray s t).desk a = n.desk a := by
  refine desk_eq rfl rfl fun s' => ?_
  rw [Session.withTable, board_setBoard]
  split
  · next heq => rw [h, heq]
  · rfl

/-- If the audience's own table changes, the desk has the new one, and is else as it was. -/
private theorem desk_withTable (n : Network) (s : SessionId) (t : HandleTable a.Listener) :
    (Session.withTable n a.tray s t).desk a = (n.desk a).setTable s t := by
  rw [desk, Session.withTable, Desk.setTable, desk]
  congr 1
  funext s'
  rw [board_setBoard]
  split
  · exact a.tray_table_replace _ t
  · rfl

theorem take_eq (tray : Tray α) (s : SessionId) (h : Handle) (n : Network) :
    Session.take tray s h n =
      Session.withTable n tray s ((tray.table (n.board s)).remove h) := rfl

/-- Of two tables that are put in one after the other the second stays. -/
private theorem setTable_setTable (d : Desk α) (s : SessionId) (t t' : HandleTable α) :
    (d.setTable s t).setTable s t' = d.setTable s t' := by
  rw [Desk.setTable, Desk.setTable, Desk.setTable]
  congr 1
  funext s'
  by_cases heq : s' = s <;> simp [heq]

/-! ## The router -/

/-- An operation of the router that an audience does not see, and that opens no session. -/
structure Unseen (a : Audience) (r r' : Router) : Prop where
  declared : a.declared r' = a.declared r
  jobs : a.jobs r'.queue = a.jobs r.queue
  clock : r'.clock = r.clock

/-- No audience sees whether a failure is still arranged. -/
private theorem Unseen.refused (a : Audience) (r : Router) (failure : Option ArrangedFailure) :
    Unseen a r { r with failure } :=
  ⟨by cases a <;> rfl, rfl, rfl⟩

/-- No audience sees the evals. -/
private theorem Unseen.evals (a : Audience) (r : Router) (evals : List Declaration) :
    Unseen a r { r with evals } :=
  ⟨by cases a <;> rfl, rfl, rfl⟩

/-- No audience sees that a query is waiting: only samples are on the way to it. -/
private theorem Unseen.query (a : Audience) (r : Router) (q : Query) :
    Unseen a r { r with queue := r.queue ++ [.query q] } := by
  refine ⟨by cases a <;> rfl, ?_, rfl⟩
  rw [Audience.jobs_append]
  cases a <;> exact List.append_nil _

/-- What an audience does not see of the router leaves its desk as it is. -/
private theorem desk_withRouter_of_unseen (n : Network) {r : Router} (h : Unseen a n.router r) :
    (Session.withRouter n r).desk a = n.desk a := by
  rw [desk, desk, Session.withRouter_router, h.declared, h.jobs, h.clock]
  rfl

/-- The router has changed who of one audience is declared, and nothing else that an audience
sees. -/
structure Redeclares (a : Audience) (declared : List SubscriberDeclaration) (r r' : Router) :
    Prop where
  declared : a.declared r' = declared
  queue : r'.queue = r.queue
  clock : r'.clock = r.clock
  others : ∀ b ≠ a, b.declared r' = b.declared r

/-- Whoever has declarations of the one audience changed leaves the other audience alone. -/
private theorem Redeclares.unseen {declared : List SubscriberDeclaration} {r r' : Router}
    (h : Redeclares a declared r r') (hb : b ≠ a) : Unseen b r r' :=
  ⟨h.others b hb, by rw [h.queue], h.clock⟩

/-- The list of subscribers is what the audience of subscribers has declared. -/
private theorem redeclares_subscribers (declared : List SubscriberDeclaration) (r : Router) :
    Redeclares .subscribers declared r { r with subscribers := declared } := by
  refine ⟨rfl, rfl, rfl, fun b hb => ?_⟩
  cases b with
  | subscribers => exact absurd rfl hb
  | storages => rfl

/-- The storages of the router are declared as if they were subscribers that are pushed. -/
private theorem redeclares_storages (storages : List Declaration) (r : Router) :
    Redeclares .storages (storages.map fun d => { toDeclaration := d, mode := .push }) r
      { r with storages } := by
  refine ⟨rfl, rfl, rfl, fun b hb => ?_⟩
  cases b with
  | subscribers => rfl
  | storages => exact absurd rfl hb

/-- The router has declared others to an audience; that is all that changes on its desk. -/
private theorem desk_withRouter_of_redeclares (n : Network) {declared : List SubscriberDeclaration}
    {r : Router} (h : Redeclares a declared n.router r) :
    (Session.withRouter n r).desk a = { n.desk a with declared } := by
  rw [desk, Session.withRouter_router, h.declared, h.queue, h.clock]
  rfl

/-- A listener was parked and taken back, so that only the counter of its table has moved. -/
private theorem desk_taken (n : Network) (s : SessionId) (h : Handle) (t : HandleTable a.Listener)
    (failure : Option ArrangedFailure) :
    (Session.take a.tray s h (Session.withRouter (Session.withTable n a.tray s t)
      { n.router with failure })).desk a = (n.desk a).setTable s (t.remove h) := by
  rw [take_eq, desk_withTable, desk_withRouter_of_unseen (Session.withTable n a.tray s t)
    (.refused a n.router failure), desk_withTable, setTable_setTable, Session.withRouter_board,
    Session.withTable, board_setBoard_self, a.tray_table_replace]

/-! ## Operations -/

/-- A declaration that no audience hears of. -/
private theorem goes_declare_of_apart {tray : Tray α} (hapart : Apart b tray) {s : SessionId}
    {operation resource : String} {listener : α} {op : Handle → Routing Unit}
    (hop : ∀ h r, Router.EndsIn (op h) r (Unseen b r)) (n : Network) :
    Goes b n [] ((Session.declare tray s operation resource listener op).run n).2 := by
  rcases Session.declare_cases tray s operation resource listener op n with
    ⟨h, t, r, -, -, hok, hrun⟩ | ⟨h, t, fault, r, e, -, -, herr, hrun⟩ | ⟨e, hrun⟩
  · -- declared: neither the table nor the list is one of this audience
    have hunseen := (hop h n.router).of_run_ok hok
    rw [hrun]
    refine .of_eq ?_
    rw [desk_withRouter_of_unseen (Session.withTable n tray s t) hunseen,
      desk_withTable_of_apart hapart]
  · obtain ⟨failure, rfl⟩ := (hop h n.router).of_run_error herr
    rw [hrun]
    refine .of_eq ?_
    rw [take_eq, desk_withTable_of_apart hapart,
      desk_withRouter_of_unseen (Session.withTable n tray s t) (.refused b n.router failure),
      desk_withTable_of_apart hapart]
  · rw [hrun]
    exact .of_eq rfl

/-- A declaration to one audience does not concern another. -/
private theorem not_concerns_declareLog (hab : b ≠ a) (s : SessionId) (expression : String)
    (mode : SubMode)
    (l : DataListener Surroundings Effect) (result : Except Error Handle) :
    ∀ e ∈ Operation.declareLog a s expression mode l result, e.concerns b = false := by
  cases result <;>
    exact List.forall_mem_singleton.2 (by simpa [Event.concerns] using Ne.symm hab)

/-- A declaration to one audience.  The router either takes the listener in or refuses. -/
private theorem goes_declare {s : SessionId} {operation resource expression : String}
    {mode : SubMode}
    {listener : a.Listener} {op : Handle → Routing Unit}
    (hop : ∀ h r, Router.EndsIn (op h) r
      (Redeclares a (a.declared r ++ [{ session := s, handle := h, expression, mode }]) r))
    (n : Network) :
    Goes b n
      (Operation.declareLog a s expression mode (a.hears listener)
        ((Session.declare a.tray s operation resource listener op).run n).1)
      ((Session.declare a.tray s operation resource listener op).run n).2 := by
  by_cases hab : b = a
  · subst hab
    rcases Session.declare_cases b.tray s operation resource listener op n with
      ⟨h, t, r, -, hreg, hok, hrun⟩ | ⟨h, t, fault, r, e, -, hreg, herr, hrun⟩ | ⟨e, hrun⟩
    · have hr := (hop h n.router).of_run_ok hok
      rw [hrun, Goes, desk_withRouter_of_redeclares (Session.withTable n b.tray s t) hr,
        desk_withTable]
      exact .single (.declare expression mode hreg)
    · -- the listener was parked and taken back, so a handle was used up for nothing
      obtain ⟨failure, rfl⟩ := (hop h n.router).of_run_error herr
      rw [hrun, Goes, desk_taken]
      exact .single (.reserve hreg)
    · rw [hrun]
      exact .single (.refuse _ s)
  · refine Goes.of_not_concerns ?_ (not_concerns_declareLog hab s expression mode _ _)
    exact goes_declare_of_apart (apart_of_ne (Ne.symm hab))
      (fun h r => (hop h r).mono fun _ hr => hr.unseen hab) n

/-- A declaration that no audience has heard of is taken back. -/
private theorem goes_undeclare_of_apart {tray : Tray α} (hapart : Apart b tray) {s : SessionId}
    {operation resource : String} {h : Handle} {op : Routing Unit}
    (hop : ∀ r, Router.EndsIn op r (Unseen b r)) (n : Network) :
    Goes b n [] ((Session.undeclare tray s operation resource h op).run n).2 := by
  rcases Session.undeclare_cases tray s operation resource h op n with
    ⟨r, -, hok, hrun⟩ | ⟨fault, r, e, herr, hrun⟩ | ⟨e, hrun⟩
  · have hunseen := (hop n.router).of_run_ok hok
    rw [hrun]
    refine .of_eq ?_
    rw [take_eq, desk_withTable_of_apart hapart, desk_withRouter_of_unseen n hunseen]
  · obtain ⟨failure, rfl⟩ := (hop n.router).of_run_error herr
    rw [hrun]
    exact .of_eq (desk_withRouter_of_unseen n (.refused b n.router failure))
  · rw [hrun]
    exact .of_eq rfl

/-- A declaration to one audience is taken back. -/
private theorem goes_undeclare {s : SessionId} {operation resource : String} {h : Handle}
    {op : Routing Unit}
    (hop : ∀ r, Router.EndsIn op r
      (Redeclares a ((a.declared r).filter fun x => !x.isOf s h) r)) (n : Network) :
    Goes b n
      (Operation.okLog [.undeclared a s h]
        ((Session.undeclare a.tray s operation resource h op).run n).1)
      ((Session.undeclare a.tray s operation resource h op).run n).2 := by
  by_cases hab : b = a
  · subst hab
    rcases Session.undeclare_cases b.tray s operation resource h op n with
      ⟨r, -, hok, hrun⟩ | ⟨fault, r, e, herr, hrun⟩ | ⟨e, hrun⟩
    · rw [hrun, Goes, take_eq, desk_withTable,
        desk_withRouter_of_redeclares n ((hop n.router).of_run_ok hok)]
      exact .single (.undeclare _ s h)
    · obtain ⟨failure, rfl⟩ := (hop n.router).of_run_error herr
      rw [hrun]
      exact .of_eq (n.desk_withFailure failure)
    · rw [hrun]
      exact .of_eq rfl
  · have hgoes : Goes b n [] ((Session.undeclare a.tray s operation resource h op).run n).2 :=
      goes_undeclare_of_apart (apart_of_ne (Ne.symm hab))
        (fun r => (hop r).mono fun _ hr => hr.unseen hab) n
    refine hgoes.of_not_concerns ?_
    cases ((Session.undeclare a.tray s operation resource h op).run n).1 with
    | ok => exact List.forall_mem_singleton.2 (by simpa [Event.concerns] using Ne.symm hab)
    | error => exact fun e he => absurd he List.not_mem_nil

/-- An operation that only asks the router. -/
private theorem goes_asked {act : Action Unit} {op : Routing Unit} {log : List Event}
    (hact : Session.Asked op act n)
    (hop : Router.EndsIn op n.router fun r => Goes b n log (Session.withRouter n r)) :
    Goes b n (Operation.okLog log (act.run n).1) (act.run n).2 := by
  cases hact with
  | done r hok hrun =>
    rw [hrun]
    exact hop.of_run_ok hok
  | refused fault r e herr hrun =>
    obtain ⟨failure, rfl⟩ := hop.of_run_error herr
    rw [hrun]
    exact .of_eq (n.desk_withFailure failure)
  | untried e hrun =>
    rw [hrun]
    exact .of_eq rfl

/-- A write goes to all those whom it concerns, or nothing happens. -/
private theorem goes_write (s : SessionId) (path : Path) (payload : Bytes) (e : Encoding)
    (kind : ChangeKind) (n : Network) :
    Goes b n
      (Operation.okLog (n.acceptedLog path.text payload e kind)
        ((Session.write s path payload e kind).run n).1)
      ((Session.write s path payload e kind).run n).2 := by
  refine goes_asked (Session.write_cases s path payload e kind n) ?_
  exact .of_cases (Router.write_cases s n.around.wall path.text payload e kind n.router)
    (n.goes_routed path.text payload e kind)

/-- A pull hands over what was kept for the subscriber, or nothing happens. -/
private theorem goes_pull (s : SessionId) (sub : Subscriber) (n : Network) :
    Goes b n (Operation.okLog [.pulled s sub.handle] ((Session.pull s sub).run n).1)
      ((Session.pull s sub).run n).2 := by
  refine goes_asked (Session.pull_cases s sub n) ?_
  refine (Router.pull_cases s sub.handle n.router).imp ?_ id
  rintro ⟨x, hx, hok⟩
  refine ⟨_, hok, ?_⟩
  cases b with
  | subscribers =>
    have hdesk : (Session.withRouter n (n.router.pulled x s sub.handle)).desk .subscribers =
        { n.desk .subscribers with
          declared := Router.changeFirst s sub.handle (fun x => { x with pending := [] })
            (n.desk .subscribers).declared
          jobs := (n.desk .subscribers).jobs ++
            x.pending.map fun sample => (s, sub.handle, sample) } := by
      have hjobs : Audience.subscribers.jobs
          (x.pending.map fun sample => .subscriber s sub.handle sample) =
          x.pending.map fun sample => (s, sub.handle, sample) := by
        rw [Audience.jobs, List.filterMap_map]
        exact congrFun List.filterMap_eq_map _
      rw [desk, Session.withRouter_router, Router.pulled, Audience.jobs_append, hjobs]
      rfl
    rw [Goes, hdesk]
    exact .single (.pull rfl hx)
  | storages =>
    have hdesk : (Session.withRouter n (n.router.pulled x s sub.handle)).desk .storages =
        n.desk .storages := by
      -- the jobs of a pull are for a subscriber, so there is none for a storage
      have hjobs : Audience.storages.jobs
          (x.pending.map fun sample => .subscriber s sub.handle sample) = [] := by
        rw [Audience.jobs, List.filterMap_map]
        exact List.filterMap_eq_nil_iff.2 fun _ _ => rfl
      rw [desk, Session.withRouter_router, Router.pulled, Audience.jobs_append, hjobs,
        List.append_nil]
      rfl
    rw [Goes, hdesk]
    exact .single (.other rfl)

/-- To close a session withdraws what it has declared, and is one event. -/
private theorem goes_close (s : SessionId) (n : Network) :
    Goes b n (Operation.okLog [.closed s] ((Session.close s).run n).1)
      ((Session.close s).run n).2 := by
  refine goes_asked (Session.close_cases s n) ?_
  refine .of_cases (Router.closeLink_cases s n.router) ?_
  -- a router without the session has all declarations of the others, in their order
  have hdesk : (Session.withRouter n (n.router.withoutLink s)).desk b =
      { n.desk b with declared := (n.desk b).declared.filter (·.session != s) } := by
    have hdecl : b.declared (n.router.withoutLink s) =
        (b.declared n.router).filter (·.session != s) := by
      cases b with
      | subscribers => rfl
      | storages =>
        simp only [Audience.declared, List.filter_map]
        rfl
    rw [desk, Session.withRouter_router, hdecl]
    rfl
  rw [Goes, hdesk]
  exact .single (.close _ s)

/-- To open a session is seen by nobody: it begins with nothing declared. -/
private theorem goes_openSession (horderly : Orderly n) (locator : Option String)
    (properties : Properties) :
    Goes b n [] ((Session.openSession locator properties).run n).2 := by
  rcases Session.openSession_cases locator properties n with hrun | ⟨failure, e, hrun⟩
  · rw [hrun]
    refine .of_eq ?_
    unfold desk
    congr 1
    · cases b <;> rfl
    · funext s
      rw [board_setBoard]
      split
      · -- the session was not there, so nobody had a listener in it
        next heq => rw [horderly.unopened s (Nat.le_of_eq heq.symm) b]
      · rfl
  · rw [hrun]
    exact .of_eq (n.desk_withFailure failure)

/-- Rearranging a result does not change what happened. -/
private theorem declareLog_map (s : SessionId) (expression : String) (mode : SubMode)
    (l : DataListener Surroundings Effect) (f : Handle → α) (g : α → Handle)
    (hg : ∀ h, g (f h) = h) (result : Except Error Handle) :
    Operation.declareLog a s expression mode l ((result.map f).map g) =
      Operation.declareLog a s expression mode l result := by
  cases result with
  | ok h => simp only [Except.map, hg]
  | error e => rfl

/-- What is made of the result of a call does not change what the call brings about. -/
private theorem okLog_map {β : Type} (events : List Event) (f : α → β) (result : Except Error α) :
    Operation.okLog events (result.map f) = Operation.okLog events result := by
  cases result <;> rfl

/-- To declare a subscriber is an event for the subscribers only. -/
private theorem goes_declareSubscriber (s : SessionId) (sel : Selector) (mode : SubMode)
    (l : DataListener Surroundings Effect) (n : Network) :
    Goes b n
      (Operation.declareLog .subscribers s sel.path mode l
        (((Session.declareSubscriber s sel mode l).run n).1.map (·.handle)))
      ((Session.declareSubscriber s sel mode l).run n).2 := by
  rw [Session.declareSubscriber, run_bind_pure, declareLog_map _ _ _ _ _ _ fun _ => rfl]
  exact goes_declare (a := .subscribers) (fun h r =>
    .of_cases (Router.declareSubscriber_cases s sel.path mode h r) (redeclares_subscribers _ r)) n

/-- To declare a storage is an event for the storages only. -/
private theorem goes_declareStorage (s : SessionId) (sel : Selector)
    (l : StorageListener Surroundings Effect) (n : Network) :
    Goes b n
      (Operation.declareLog .storages s sel.path .push l.data
        (((Session.declareStorage s sel l).run n).1.map (·.handle)))
      ((Session.declareStorage s sel l).run n).2 := by
  rw [Session.declareStorage, run_bind_pure, declareLog_map _ _ _ _ _ _ fun _ => rfl]
  refine goes_declare (a := .storages) (fun h r =>
    .of_cases (Router.declareStorage_cases s sel.path h r) ?_) n
  have hdecl := redeclares_storages (r.storages ++ [⟨s, h, sel.path⟩]) r
  rwa [List.map_append] at hdecl

/-- To declare a storage in memory is to declare a storage. -/
private theorem goes_declareMemory (s : SessionId) (sel : Selector) (n : Network) :
    Goes b n
      (Operation.declareLog .storages s sel.path .push (MemoryStorage.listener n.nextStore).data
        (((MemoryStorage.declare s sel).run n).1.map (·.storage.handle)))
      ((MemoryStorage.declare s sel).run n).2 := by
  have hgoes := goes_declareStorage (b := b) s sel (MemoryStorage.listener n.nextStore)
    { n with nextStore := n.nextStore + 1 }
  rw [MemoryStorage.declare_run]
  generalize (Session.declareStorage s sel (MemoryStorage.listener n.nextStore)).run
    { n with nextStore := n.nextStore + 1 } = outcome at hgoes ⊢
  rcases outcome with ⟨e | storage, n'⟩ <;> exact hgoes

/-- To undeclare a subscriber is an event for the subscribers only. -/
private theorem goes_undeclareSubscriber (s : SessionId) (sub : Subscriber) (n : Network) :
    Goes b n
      (Operation.okLog [.undeclared .subscribers s sub.handle]
        ((Session.undeclareSubscriber s sub).run n).1)
      ((Session.undeclareSubscriber s sub).run n).2 :=
  goes_undeclare (a := .subscribers) (fun r =>
    .of_cases (Router.undeclareSubscriber_cases s sub.handle r) (redeclares_subscribers _ r)) n

/-- To undeclare a storage is an event for the storages only. -/
private theorem goes_undeclareStorage (s : SessionId) (storage : Storage) (n : Network) :
    Goes b n
      (Operation.okLog [.undeclared .storages s storage.handle]
        ((Session.undeclareStorage s storage).run n).1)
      ((Session.undeclareStorage s storage).run n).2 := by
  refine goes_undeclare (a := .storages) (fun r =>
    .of_cases (Router.undeclareStorage_cases s storage.handle r) ?_) n
  -- a storage may be taken off before or after the list is read as that of subscribers
  have hfilter : (Audience.storages.declared r).filter (fun x => !x.isOf s storage.handle) =
      (r.storages.filter fun d => !d.isOf s storage.handle).map
        fun d => { toDeclaration := d, mode := .push } := List.filter_map
  rw [hfilter]
  exact redeclares_storages _ r

/-- No audience sees that an eval is declared. -/
private theorem goes_declareEval (s : SessionId) (path : Path)
    (l : QueryListener Surroundings Effect)
    (n : Network) : Goes b n [] ((Session.declareEval s path l).run n).2 := by
  rw [Session.declareEval, run_bind_pure]
  exact goes_declare_of_apart (apart_evals b)
    (fun h r => .of_cases (Router.declareEval_cases s path.text h r) (.evals b r _)) n

/-- No audience sees that an eval is undeclared. -/
private theorem goes_undeclareEval (s : SessionId) (eval : Eval) (n : Network) :
    Goes b n [] ((Session.undeclareEval s eval).run n).2 :=
  goes_undeclare_of_apart (apart_evals b)
    (fun r => .of_cases (Router.undeclareEval_cases s eval.handle r) (.evals b r _)) n

/-- No audience sees that a query is sent. -/
private theorem goes_query (s : SessionId) (sel : Selector)
    (l : Surroundings → ReplyEvent → Script Effect) (n : Network) :
    Goes b n [] ((Session.query s sel l).run n).2 := by
  rw [Session.query_run]
  exact goes_declare_of_apart (apart_replies b) (fun h r =>
    .of_cases (Router.query_cases s sel.path sel.optionalPart h r) (.query b r _))
    { n with tokens := n.tokens + 1 }

/-- No audience sees that a query is given up. -/
private theorem goes_cancelQuery (s : SessionId) (q : PendingQuery) (n : Network) :
    Goes b n [] (Session.cancelQuery s q n).2 :=
  .of_eq (n.desk_setBoard s (Switchboard.settleReply_within _ _ _))

/-! ## Operations of workspaces -/

/-- A workspace writes as its session does, where its path can be resolved. -/
private theorem goes_workspaceWrite (w : Workspace) (p : Path) (payload : Bytes) (e : Encoding)
    (kind : ChangeKind) (n : Network) :
    Goes b n (Operation.writeLog w p payload e kind n) ((w.write p payload e kind).run n).2 := by
  rw [Operation.writeLog, w.write_run]
  cases w.absolutePath p with
  | error err => exact .of_eq rfl
  | ok path =>
    dsimp only
    have hgoes := goes_write (b := b) w.session path payload e kind n
    -- the write was refused, or it went through: either way the events are those of the session
    generalize (Session.write w.session path payload e kind).run n = outcome at hgoes ⊢
    rcases outcome with ⟨err | _, m⟩ <;> exact hgoes

/-- A workspace that subscribes declares a subscriber in its session. -/
private theorem goes_subscribe (w : Workspace) (sel : Selector) (l : List Change → Script Effect)
    (n : Network) :
    Goes b n
      (Operation.declareLog .subscribers w.session (w.absoluteSelector sel).path .push
        (Workspace.changeListener w.delivery l) (((w.subscribe sel l).run n).1.map (·.1)))
      ((w.subscribe sel l).run n).2 := by
  have hgoes := goes_declareSubscriber (b := b) w.session (w.absoluteSelector sel) .push
    (Workspace.changeListener w.delivery l) n
  rw [w.subscribe_run]
  generalize (Session.declareSubscriber w.session (w.absoluteSelector sel) .push
    (Workspace.changeListener w.delivery l)).run n = outcome at hgoes ⊢
  rcases outcome with ⟨e | sub, m⟩ <;> exact hgoes

/-- A workspace that ends a subscription undeclares the subscriber, if it has one of that handle. -/
private theorem goes_unsubscribe (w : Workspace) (h : Handle) (n : Network) :
    Goes b n (Operation.log (.unsubscribe w h) n) ((w.unsubscribe h).run n).2 := by
  rw [Operation.log, w.unsubscribe_run]
  -- without a subscription of that handle the router is not asked
  cases w.subscriptions.find? h with
  | none => exact .of_eq rfl
  | some sub =>
    dsimp only
    rw [okLog_map]
    exact goes_undeclareSubscriber w.session sub n

/-- No audience sees that a get is concluded. -/
private theorem goes_concludeGet (w : Workspace) (sel : Selector) (g : Workspace.PendingGet)
    (n : Network) : Goes b n [] ((w.concludeGet sel g).run n).2 := by
  rcases w.concludeGet_cases sel g n with ⟨aggregator, -, hconclude⟩ | ⟨e, -, hconclude⟩
  · rw [hconclude]
    exact .of_eq rfl
  · rw [hconclude]
    exact goes_cancelQuery w.session g.query n

/-- No audience sees that a get begins: it sends a query, and starts to gather. -/
theorem goes_beginGet (w : Workspace) (sel : Selector) (n : Network) :
    Goes b n [] ((w.beginGet sel).run n).2 := by
  have hquery := goes_query (b := b) w.session (w.absoluteSelector sel)
    (Workspace.gatherListener n.nextGathering w.settings.missingTimestamp) n
  rcases w.beginGet_cases sel n with ⟨query, m, hq, hbegin⟩ | ⟨e, m, hq, hbegin⟩
  · rw [hq] at hquery
    rw [hbegin]
    exact hquery.of_desk_eq rfl
  · rw [hq] at hquery
    rw [hbegin]
    exact hquery

/-- During a get exactly that is heard which the queue brings before the answer is there. -/
private theorem goes_get (w : Workspace) (limit : Nat) (sel : Selector) (n : Network) :
    Goes b n (Operation.log (.get w limit sel) n) ((w.get limit sel).run n).2 := by
  have hbegin := goes_beginGet (b := b) w sel n
  rw [Operation.log, w.get_run]
  generalize (w.beginGet sel).run n = outcome at hbegin ⊢
  rcases outcome with ⟨e | g, m⟩
  · exact hbegin
  · -- the two ends of the get add nothing to what the queue brings
    have hget := (hbegin.trans (goes_settle limit m)).trans (goes_concludeGet w sel g _)
    rw [List.nil_append, List.append_nil] at hget
    exact hget

/-- Every operation is a number of moves. -/
theorem goes_run (horderly : Orderly n) (op : Operation) : Goes b n (op.log n) (op.run n) := by
  -- those that no audience sees come first
  cases op with
  | showWall => exact .of_eq rfl
  | failNext count code name => exact .of_eq (n.desk_withFailure _)
  | stampReplies on => exact .of_eq (by cases b <;> rfl)
  | letGo sessions workspaces =>
    exact .of_eq (desk_eq rfl rfl fun s => by rw [Operation.run, board_letGo])
  | deliver => exact n.goes_deliverNext
  | answerParked i replies => exact n.goes_answerParked i replies
  | openSession locator properties => exact goes_openSession horderly locator properties
  | close s => exact goes_close s n
  | write s path payload e kind => exact goes_write s path payload e kind n
  | declareSubscriber s sel mode l => exact goes_declareSubscriber s sel mode l n
  | undeclareSubscriber s sub => exact goes_undeclareSubscriber s sub n
  | pull s sub => exact goes_pull s sub n
  | declareStorage s sel l => exact goes_declareStorage s sel l n
  | undeclareStorage s storage => exact goes_undeclareStorage s storage n
  | declareMemory s sel => exact goes_declareMemory s sel n
  | declareEval s path l => exact goes_declareEval s path l n
  | undeclareEval s eval => exact goes_undeclareEval s eval n
  | query s sel l => exact goes_query s sel l n
  | cancelQuery s q => exact goes_cancelQuery s q n
  | put w p v => exact goes_workspaceWrite w p v.encode v.encoding .put n
  | update w p v => exact goes_workspaceWrite w p v.encode v.encoding .update n
  | remove w p => exact goes_workspaceWrite w p [] .raw .remove n
  | get w limit sel => exact goes_get w limit sel n
  | subscribe w sel l => exact goes_subscribe w sel l n
  | unsubscribe w h => exact goes_unsubscribe w h n

/-! ## Runs -/

/-- Every run is a number of moves. -/
theorem goes_runAll (horderly : Orderly n) (ops : List Operation) :
    Goes b n (n.runLog ops) (n.runAll ops) := by
  induction ops generalizing n with
  | nil => exact .of_eq rfl
  | cons op rest ih => exact (goes_run horderly op).trans (ih (horderly.run op))

/-- An empty network has an empty desk, on which every handle is free. -/
theorem tidy_start (wall : Instant) (clock : ClockId) (codecs : CodecTable) (a : Audience) :
    Desk.Tidy a [] ((start wall clock codecs).desk a) := by
  have hboard : ∀ s, (start wall clock codecs).board s = {} := fun _ => rfl
  have htable : ∀ s, ((start wall clock codecs).desk a).table s = a.tray.table {} := fun _ => rfl
  have hround : (a.tray.table {}).InFirstRound ∧
      (a.tray.table {}).capacity = HandleTable.defaultCapacity ∧ (a.tray.table {}).next = 0 := by
    cases a <;> exact ⟨HandleTable.InFirstRound.ofName _, rfl, rfl⟩
  constructor
  · intro s
    rw [htable]
    exact hround.1
  · intro s
    rw [htable]
    exact hround.2.1
  · intro s
    rw [htable, hround.2.2]
    exact Nat.zero_le _
  · intro x hx
    -- nobody has declared anything, and nothing is on the way
    cases a <;> cases hx
  · intro j hj
    cases hj

end Network

end PathSpace
