import PathSpace.Proofs.Network.Sites
/-!
# A call that fails leaves nothing behind

A call can fail at many places: the session is closed, its registry is full, the router
refuses, the workspace knows nothing of the kind.  Wherever it is, the call has cleaned up
behind itself.  At most an arranged failure has been used up, and a counter has moved.

## Key results

- `Network.Unmoved`: what a failed call leaves as it was
- `Network.unmoved_declare`, `unmoved_undeclare`, `unmoved_asked`: the three kinds of calls
- `Task.unmoved_of_error`: every call of a client but a get
-/

namespace PathSpace

open PathSpace.Computation
open Text (Bytes)

/-- All four tables have the same listeners under the same handles. -/
structure Switchboard.SameEntries {σ ε : Type} (b b' : Switchboard σ ε) : Prop where
  subscribers : b'.subscribers.entries = b.subscribers.entries
  storages : b'.storages.entries = b.storages.entries
  evals : b'.evals.entries = b.evals.entries
  replies : b'.replies.entries = b.replies.entries

theorem Switchboard.SameEntries.refl {σ ε : Type} (b : Switchboard σ ε) : b.SameEntries b :=
  ⟨rfl, rfl, rfl, rfl⟩

/-- A tray is one of the tables of a board, apart from the other three. -/
structure Tray.IsTable {α : Type} (tray : Tray α) : Prop where
  table_replace : ∀ b t, tray.table (tray.replace b t) = t
  replace_replace : ∀ b t t', tray.replace (tray.replace b t) t' = tray.replace b t'
  sameEntries : ∀ b t, t.entries = (tray.table b).entries → b.SameEntries (tray.replace b t)

/-- The pending queries of a board are a table of it. -/
private theorem Tray.isTable_replies : Tray.replies.IsTable :=
  ⟨fun _ _ => rfl, fun _ _ _ => rfl, fun _ _ h => ⟨rfl, rfl, rfl, h⟩⟩

/-- The listeners of each role are a table of the board. -/
private theorem Role.isTable_tray (role : Role) : role.tray.IsTable := by
  cases role with
  | subscriber => exact ⟨fun _ _ => rfl, fun _ _ _ => rfl, fun _ _ h => ⟨h, rfl, rfl, rfl⟩⟩
  | storage => exact ⟨fun _ _ => rfl, fun _ _ _ => rfl, fun _ _ h => ⟨rfl, h, rfl, rfl⟩⟩
  | eval => exact ⟨fun _ _ => rfl, fun _ _ _ => rfl, fun _ _ h => ⟨rfl, rfl, h, rfl⟩⟩

namespace Network

variable {n n' : Network} {s : SessionId} {e : Error} {α : Type}

/-- The router is as it was, but for an arranged failure that may have been used up, and no
table has other listeners. -/
structure Unmoved (n n' : Network) : Prop where
  router : ∃ failure, n'.router = { n.router with failure }
  board : ∀ s, (n.board s).SameEntries (n'.board s)

theorem Unmoved.refl (n : Network) : Unmoved n n :=
  ⟨⟨n.router.failure, rfl⟩, fun _ => .refl _⟩

/-- Only the arranged failure has been used up. -/
private theorem Unmoved.refused (n : Network) (failure : Option ArrangedFailure) :
    Unmoved n (Session.withRouter n { n.router with failure }) :=
  ⟨⟨failure, rfl⟩, fun _ => .refl _⟩

/-! ## The three kinds of calls -/

/-- An operation that is carried out or refused, and nothing else. -/
def Answers (op : Routing α) : Prop := ∀ r, (∃ a r', op.run r = (.ok a, r')) ∨ Router.Refuses op r

/-- If an answer is an error, only the arranged failure of the router has changed. -/
private theorem Answers.failure_of_error {op : Routing α} (hop : Answers op) {r r' : Router}
    {fault : TransportFault} (herr : op.run r = (.error fault, r')) :
    ∃ failure, r' = { r with failure } := by
  rcases hop r with ⟨a, r₁, hok⟩ | ⟨fault₁, failure, hrefused⟩
  · rw [hok, Prod.mk.injEq] at herr
    cases herr.1
  · rw [hrefused, Prod.mk.injEq] at herr
    exact ⟨failure, herr.2.symm⟩

/-- The router was asked, and refused. -/
theorem unmoved_asked {act : Action Unit} {op : Routing Unit} (hact : Session.Asked op act n)
    (hop : Answers op) (hfail : (act.run n).1 = .error e) : Unmoved n (act.run n).2 := by
  cases hact with
  | done r _ hrun =>
    rw [hrun] at hfail
    cases hfail
  | refused fault r e' herr hrun =>
    obtain ⟨failure, rfl⟩ := hop.failure_of_error herr
    rw [hrun]
    exact .refused n failure
  | untried e' hrun =>
    rw [hrun]
    exact .refl n

/-- The router refused a declaration, and the listener was taken back. -/
theorem unmoved_declare {tray : Tray α} (htray : tray.IsTable) {operation resource : String}
    {listener : α} {op : Handle → Routing Unit} (hop : ∀ h, Answers (op h))
    (hfail : ((Session.declare tray s operation resource listener op).run n).1 = .error e) :
    Unmoved n ((Session.declare tray s operation resource listener op).run n).2 := by
  rcases Session.declare_cases tray s operation resource listener op n with
    ⟨h, t, r, -, -, -, hrun⟩ | ⟨h, t, fault, r, e', -, hreg, herr, hrun⟩ | ⟨e', hrun⟩
  · rw [hrun] at hfail
    cases hfail
  · obtain ⟨failure, rfl⟩ := (hop h).failure_of_error herr
    -- the handle was used up, but the listener is gone
    have hentries := (HandleTable.parks_of_register hreg).entries_remove
    rw [hrun]
    refine ⟨⟨failure, rfl⟩, fun s' => ?_⟩
    simp only [Session.take, Session.withTable, Session.withRouter_board, board_setBoard]
    by_cases hs : s' = s
    · -- the listener was parked in the table and taken out of it again
      subst hs
      simp only [if_true, htray.table_replace, htray.replace_replace]
      exact htray.sameEntries _ _ hentries
    · simp only [hs, if_false]
      exact .refl _
  · rw [hrun]
    exact .refl n

/-- The router was asked first, and refused, so the listener has stayed. -/
theorem unmoved_undeclare {tray : Tray α} {operation resource : String} {h : Handle}
    {op : Routing Unit} (hop : Answers op)
    (hfail : ((Session.undeclare tray s operation resource h op).run n).1 = .error e) :
    Unmoved n ((Session.undeclare tray s operation resource h op).run n).2 := by
  rcases Session.undeclare_cases tray s operation resource h op n with
    ⟨r, -, -, hrun⟩ | ⟨fault, r, e', herr, hrun⟩ | ⟨e', hrun⟩
  · rw [hrun] at hfail
    cases hfail
  · obtain ⟨failure, rfl⟩ := hop.failure_of_error herr
    rw [hrun]
    exact .refused n failure
  · rw [hrun]
    exact .refl n

/-! ## The calls of a session -/

/-- The router answers a write. -/
private theorem answers_write (s : SessionId) (wall : Instant) (path : String) (payload : Bytes)
    (e : Encoding) (kind : ChangeKind) : Answers (Router.write s wall path payload e kind) :=
  fun r => (Router.write_cases s wall path payload e kind r).imp_left fun hok => ⟨_, _, hok⟩

/-- A write that fails moves nothing. -/
private theorem unmoved_write (s : SessionId) (path : Path) (payload : Bytes) (encoding : Encoding)
    (kind : ChangeKind)
    (hfail : ((Session.write s path payload encoding kind).run n).1 = .error e) :
    Unmoved n ((Session.write s path payload encoding kind).run n).2 :=
  unmoved_asked (Session.write_cases s path payload encoding kind n)
    (answers_write s _ _ _ _ _) hfail

/-- A pull that fails moves nothing. -/
private theorem unmoved_pull (s : SessionId) (sub : Subscriber)
    (hfail : ((Session.pull s sub).run n).1 = .error e) :
    Unmoved n ((Session.pull s sub).run n).2 := by
  refine unmoved_asked (Session.pull_cases s sub n) (fun r => ?_) hfail
  refine (Router.pull_cases s sub.handle r).imp_left ?_
  rintro ⟨d, -, hok⟩
  exact ⟨_, _, hok⟩

/-- A session that cannot be closed moves nothing. -/
private theorem unmoved_close (s : SessionId) (hfail : ((Session.close s).run n).1 = .error e) :
    Unmoved n ((Session.close s).run n).2 :=
  unmoved_asked (Session.close_cases s n)
    (fun r => (Router.closeLink_cases s r).imp_left fun hok => ⟨_, _, hok⟩) hfail

/-- A session that cannot be opened moves nothing. -/
private theorem unmoved_openSession (locator : Option String) (properties : Properties)
    (hfail : ((Session.openSession locator properties).run n).1 = .error e) :
    Unmoved n ((Session.openSession locator properties).run n).2 := by
  rcases Session.openSession_cases locator properties n with hrun | ⟨failure, e', hrun⟩
  · rw [hrun] at hfail
    cases hfail
  · rw [hrun]
    exact .refused n failure

/-- A query that fails moves nothing. -/
private theorem unmoved_query (s : SessionId) (sel : Selector)
    (l : Surroundings → ReplyEvent → Script Effect)
    (hfail : ((Session.query s sel l).run n).1 = .error e) :
    Unmoved n ((Session.query s sel l).run n).2 := by
  rw [Session.query_run] at hfail ⊢
  have hdeclare := unmoved_declare Tray.isTable_replies (fun h r =>
    (Router.query_cases s sel.path sel.optionalPart h r).imp_left fun hok => ⟨_, _, hok⟩)
    (error_of_map hfail)
  exact ⟨hdeclare.router, hdeclare.board⟩

/-- A subscriber that cannot be declared moves nothing. -/
theorem unmoved_declareSubscriber (s : SessionId) (sel : Selector) (mode : SubMode)
    (l : DataListener Surroundings Effect)
    (hfail : ((Session.declareSubscriber s sel mode l).run n).1 = .error e) :
    Unmoved n ((Session.declareSubscriber s sel mode l).run n).2 := by
  rw [Session.declareSubscriber, run_bind_pure] at hfail ⊢
  exact unmoved_declare (Role.isTable_tray .subscriber) (fun h r =>
    (Router.declareSubscriber_cases s sel.path mode h r).imp_left fun hok => ⟨_, _, hok⟩)
    (error_of_map hfail)

/-- A storage that cannot be declared moves nothing. -/
private theorem unmoved_declareStorage (s : SessionId) (sel : Selector)
    (l : StorageListener Surroundings Effect)
    (hfail : ((Session.declareStorage s sel l).run n).1 = .error e) :
    Unmoved n ((Session.declareStorage s sel l).run n).2 := by
  rw [Session.declareStorage, run_bind_pure] at hfail ⊢
  exact unmoved_declare (Role.isTable_tray .storage) (fun h r =>
    (Router.declareStorage_cases s sel.path h r).imp_left fun hok => ⟨_, _, hok⟩)
    (error_of_map hfail)

/-- An eval that cannot be declared moves nothing. -/
theorem unmoved_declareEval (s : SessionId) (path : Path)
    (l : QueryListener Surroundings Effect)
    (hfail : ((Session.declareEval s path l).run n).1 = .error e) :
    Unmoved n ((Session.declareEval s path l).run n).2 := by
  rw [Session.declareEval, run_bind_pure] at hfail ⊢
  exact unmoved_declare (Role.isTable_tray .eval) (fun h r =>
    (Router.declareEval_cases s path.text h r).imp_left fun hok => ⟨_, _, hok⟩)
    (error_of_map hfail)

/-- Whatever cannot be declared moves nothing. -/
theorem unmoved_offer (s : SessionId) (offer : Offer)
    (hfail : ((offer.declare s).run n).1 = .error e) : Unmoved n ((offer.declare s).run n).2 := by
  cases offer with
  | subscriber sel mode l =>
    rw [Offer.declare, run_bind_pure] at hfail ⊢
    exact unmoved_declareSubscriber s sel mode l (error_of_map hfail)
  | storage sel l =>
    rw [Offer.declare, run_bind_pure] at hfail ⊢
    exact unmoved_declareStorage s sel l (error_of_map hfail)
  | memory sel =>
    rw [Offer.declare, run_bind_pure, MemoryStorage.declare_run] at hfail ⊢
    -- a memory is named first, but that is no part of what a client sees
    have hdeclare := unmoved_declareStorage s sel _ (error_of_map (error_of_map hfail))
    exact ⟨hdeclare.router, hdeclare.board⟩
  | eval path l =>
    rw [Offer.declare, run_bind_pure] at hfail ⊢
    exact unmoved_declareEval s path l (error_of_map hfail)

/-- A declaration that cannot be taken back moves nothing. -/
private theorem unmoved_token (s : SessionId) (token : Token)
    (hfail : ((token.undeclare s).run n).1 = .error e) :
    Unmoved n ((token.undeclare s).run n).2 := by
  cases token with
  | subscriber sub =>
    exact unmoved_undeclare (fun r =>
      (Router.undeclareSubscriber_cases s sub.handle r).imp_left fun hok => ⟨_, _, hok⟩) hfail
  | storage st =>
    exact unmoved_undeclare (fun r =>
      (Router.undeclareStorage_cases s st.handle r).imp_left fun hok => ⟨_, _, hok⟩) hfail
  | eval ev =>
    exact unmoved_undeclare (fun r =>
      (Router.undeclareEval_cases s ev.handle r).imp_left fun hok => ⟨_, _, hok⟩) hfail

/-! ## The calls of a workspace -/

/-- A workspace that cannot write moves nothing. -/
private theorem unmoved_workspaceWrite (w : Workspace) (p : Path) (payload : Bytes)
    (encoding : Encoding) (kind : ChangeKind)
    (hfail : ((w.write p payload encoding kind).run n).1 = .error e) :
    Unmoved n ((w.write p payload encoding kind).run n).2 := by
  rw [w.write_run] at hfail ⊢
  cases hp : w.absolutePath p with
  | error err => exact .refl n
  | ok path =>
    rw [hp] at hfail
    exact unmoved_write w.session path payload encoding kind hfail

/-- A chore that comes to nothing moves nothing. -/
private theorem unmoved_chore (w : Workspace) (chore : Chore)
    (hfail : ((chore.perform w).run n).1 = .error e) :
    Unmoved n ((chore.perform w).run n).2 := by
  cases chore with
  | subscribe sel listener =>
    rw [Chore.perform_subscribe] at hfail ⊢
    exact unmoved_declareSubscriber _ _ _ _ (error_of_map hfail)
  | unsubscribe h =>
    rw [Chore.perform_unsubscribe] at hfail ⊢
    -- without the subscription the router is not asked
    cases hsub : w.subscriptions.find? h with
    | none => exact .refl n
    | some sub =>
      rw [hsub] at hfail
      exact unmoved_token w.session (.subscriber sub) (error_of_map hfail)
  | registerEval p eval =>
    rw [Chore.perform_registerEval] at hfail ⊢
    cases hp : w.absolutePath p with
    | error err => exact .refl n
    | ok path =>
      rw [hp] at hfail
      dsimp only at hfail ⊢
      -- a path that has an eval already is refused at once
      by_cases hcontains : w.evals.contains path = true
      · rw [if_pos hcontains]
        exact .refl n
      · rw [if_neg hcontains] at hfail ⊢
        exact unmoved_declareEval _ _ _ (error_of_map hfail)
  | unregisterEval p =>
    rw [Chore.perform_unregisterEval] at hfail ⊢
    cases hp : w.absolutePath p with
    | error err => exact .refl n
    | ok path =>
      rw [hp] at hfail
      dsimp only at hfail ⊢
      cases hev : w.evals.find? path with
      | none => exact .refl n
      | some ev =>
        rw [hev] at hfail
        exact unmoved_token w.session (.eval ev) (error_of_map hfail)

end Network

/-! ## Calls of clients -/

/-- Nothing that a client could see has changed. -/
structure Site.Unmoved (site site' : Site) : Prop where
  network : site.network.Unmoved site'.network
  workspaces : site'.workspaces = site.workspaces
  issued : site'.issued = site.issued

namespace Task

/-- Whether a call does one thing or nothing.  A get asks and waits; it may fail after the
query has been answered in part. -/
def isAtomic : Task → Bool
  | .operate (.get ..) _ => false
  | _ => true

/-- An operation that fails moves nothing, a get excepted. -/
private theorem unmoved_operate (op : Operation) {n : Network} {e : Error}
    (hget : ∀ w limit sel, op ≠ .get w limit sel) (hfail : op.answer n = .error e) :
    n.Unmoved (op.run n) := by
  cases op with
  | openSession locator properties =>
    exact Network.unmoved_openSession locator properties (error_of_map hfail)
  | close s => exact Network.unmoved_close s hfail
  | write s path payload encoding kind => exact Network.unmoved_write s path payload _ kind hfail
  | pull s sub => exact Network.unmoved_pull s sub hfail
  | query s sel l => exact Network.unmoved_query s sel l (error_of_map hfail)
  | put w p v => exact Network.unmoved_workspaceWrite w p _ _ .put hfail
  | update w p v => exact Network.unmoved_workspaceWrite w p _ _ .update hfail
  | remove w p => exact Network.unmoved_workspaceWrite w p _ _ .remove hfail
  | get w limit sel => exact absurd rfl (hget w limit sel)
  | _ => cases hfail

/-- A call that is taken over with an error leaves nothing behind if the network did. -/
private theorem unmoved_take {α : Type} {site : Site} {result : Except Error α × Network}
    {f : α → Site → Site} {e : Error} (hfail : (site.take result f).1 = .error e)
    (hn : ∀ err, result.1 = .error err → site.network.Unmoved result.2) :
    site.Unmoved (site.take result f).2 := by
  rcases result with ⟨err | a, n⟩
  · exact ⟨hn err rfl, rfl, rfl⟩
  · cases hfail

/-- Every call of a client but a get either succeeds or leaves nothing behind. -/
theorem unmoved_of_error (t : Task) {site : Site} {e : Error} (ht : t.isAtomic = true)
    (hfail : (t.attempt site).1 = .error e) : site.Unmoved (t.run site) := by
  cases t with
  | operate op hop =>
    -- a get is no single call
    have hget : ∀ w limit sel, op ≠ .get w limit sel := by
      rintro w limit sel rfl
      cases ht
    exact ⟨unmoved_operate op hget hfail, rfl, rfl⟩
  | declare s offer =>
    exact unmoved_take hfail fun err herr => Network.unmoved_offer s offer herr
  | undeclare s token =>
    exact unmoved_take hfail fun err herr => Network.unmoved_token s token herr
  | openWorkspace root s settings => cases hfail
  | work i chore =>
    rw [run]
    cases hw : site.workspaces[i]? with
    | none =>
      rw [attempt_work_missing i chore hw] at hfail
      cases hfail
    | some w =>
      rw [attempt_work i chore hw] at hfail ⊢
      exact unmoved_take hfail fun err herr => Network.unmoved_chore w chore herr

end Task

end PathSpace
