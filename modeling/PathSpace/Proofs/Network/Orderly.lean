import PathSpace.Proofs.Network.Audiences
import PathSpace.Proofs.Network.Workspaces
/-!
# Sessions that were never opened

Only a session that was opened has listeners, so a session that is opened starts with none.

## Key results

- `Orderly`: only sessions that were opened have links or listeners
- `Orderly.run`: that stays so, whatever is done
-/

namespace PathSpace

open PathSpace.Computation
open Text (Bytes)

namespace Network

variable {n n' : Network} {α : Type}

/-- Only sessions that were opened have links or listeners. -/
structure Orderly (n : Network) : Prop where
  links_lt : ∀ s, (n.router.links.find? s).isSome = true → s < n.router.nextSession
  unopened : ∀ s, n.router.nextSession ≤ s → ∀ a : Audience,
    a.tray.table (n.board s) = a.tray.table {}

/-- A session that is open was opened before. -/
theorem Orderly.lt_of_open (h : Orderly n) {s : SessionId} (hs : Session.isClosed n s = false) :
    s < n.router.nextSession := by
  refine h.links_lt s ?_
  rw [Session.isClosed, Router.isClosed] at hs
  cases hl : n.router.links.find? s with
  | none => simp [hl] at hs
  | some link => rfl

/-- Links may only be closed, and other listeners only come to sessions that were opened. -/
private theorem Orderly.of_tables (h : Orderly n)
    (hn : n'.router.nextSession = n.router.nextSession)
    (hl : ∀ s, (n'.router.links.find? s).isSome = true → (n.router.links.find? s).isSome = true)
    (ht : ∀ s, n.router.nextSession ≤ s → ∀ a : Audience,
      a.tray.table (n'.board s) = a.tray.table (n.board s)) : Orderly n' where
  links_lt s hs := hn ▸ h.links_lt s (hl s hs)
  unopened s hs a := by
    rw [hn] at hs
    rw [ht s hs a, h.unopened s hs a]

/-- What keeps the registrations keeps the order. -/
private theorem Orderly.keeps (h : Orderly n) (hk : Keeps n n') : Orderly n' :=
  h.of_tables hk.nextSession (fun _ hs => hk.links ▸ hs)
    fun s _ a => a.tray_table_of_within (hk.board s)

/-- To let handles go leaves all boards as they are. -/
theorem board_letGo (n : Network) (sessions : List SessionId)
    (workspaces : SortedMap WorkspaceId SessionId) (s : SessionId) :
    (n.letGo sessions workspaces).board s = n.board s := by
  unfold letGo keepOnly board
  rw [SortedMap.find?_mapValues]
  cases n.hosts.find? s <;> rfl

/-! ## Operations -/

/-- No session is opened, and at most some are closed. -/
structure SameLinks (r r' : Router) : Prop where
  nextSession : r'.nextSession = r.nextSession
  links : ∀ s, (r'.links.find? s).isSome = true → (r.links.find? s).isSome = true

/-- A failure that was arranged or used up changes no link. -/
private theorem SameLinks.refused (r : Router) (failure : Option ArrangedFailure) :
    SameLinks r { r with failure } :=
  ⟨rfl, fun _ h => h⟩

/-- To close a link opens none. -/
private theorem SameLinks.withoutLink (r : Router) (s : SessionId) :
    SameLinks r (r.withoutLink s) := by
  refine ⟨rfl, fun s' h => ?_⟩
  unfold Router.withoutLink at h
  rw [SortedMap.find?_mapValues, Option.isSome_map] at h
  exact h

/-- To pass a sample on changes no link. -/
private theorem SameLinks.written (r : Router) (wall : Instant) (sample : Sample) :
    SameLinks r ((r.ticked wall).routed sample) := by
  unfold Router.ticked
  generalize (r.clock.now wall).2 = clock
  exact ⟨rfl, fun _ h => h⟩

namespace Orderly

/-- The router may change without a new link. -/
private theorem withRouter (h : Orderly n) {r : Router} (hr : SameLinks n.router r) :
    Orderly (Session.withRouter n r) :=
  h.of_tables hr.nextSession hr.links fun _ _ _ => rfl

/-- Only a session that was opened gets other listeners. -/
private theorem withTable (h : Orderly n) {s : SessionId} (hs : s < n.router.nextSession)
    (tray : Tray α)
    (t : HandleTable α) : Orderly (Session.withTable n tray s t) := by
  refine h.of_tables rfl (fun _ hl => hl) fun s' hs' a => ?_
  have hne : s' ≠ s := fun heq => Nat.lt_irrefl _ (Nat.lt_of_lt_of_le hs (heq ▸ hs'))
  rw [Session.withTable, board_setBoard, if_neg hne]

/-- To declare keeps the order: only a session that is open has its table changed. -/
private theorem declare (h : Orderly n) (tray : Tray α) (s : SessionId)
    (operation resource : String)
    (listener : α) {op : Handle → Routing Unit}
    (hop : ∀ h r, Router.EndsIn (op h) r (SameLinks r)) :
    Orderly ((Session.declare tray s operation resource listener op).run n).2 := by
  rcases Session.declare_cases tray s operation resource listener op n with
    ⟨k, t, r, hopen, -, hok, hrun⟩ | ⟨k, t, fault, r, e, hopen, -, herr, hrun⟩ | ⟨e, hrun⟩
  · rw [hrun]
    exact (h.withTable (h.lt_of_open hopen) tray t).withRouter ((hop k n.router).of_run_ok hok)
  · obtain ⟨failure, rfl⟩ := (hop k n.router).of_run_error herr
    rw [hrun]
    exact ((h.withTable (h.lt_of_open hopen) tray t).withRouter (.refused _ failure)).withTable
      (h.lt_of_open hopen) tray _
  · rw [hrun]
    exact h

/-- To undeclare keeps the order. -/
private theorem undeclare (h : Orderly n) (tray : Tray α) (s : SessionId)
    (operation resource : String)
    (k : Handle) {op : Routing Unit} (hop : ∀ r, Router.EndsIn op r (SameLinks r)) :
    Orderly ((Session.undeclare tray s operation resource k op).run n).2 := by
  rcases Session.undeclare_cases tray s operation resource k op n with
    ⟨r, hopen, hok, hrun⟩ | ⟨fault, r, e, herr, hrun⟩ | ⟨e, hrun⟩
  · -- the table of the session is changed after the router was asked, and the session is still
    -- there
    have hr := (hop n.router).of_run_ok hok
    rw [hrun]
    exact (h.withRouter hr).withTable (hr.nextSession ▸ h.lt_of_open hopen) tray _
  · obtain ⟨failure, rfl⟩ := (hop n.router).of_run_error herr
    rw [hrun]
    exact h.withRouter (.refused _ failure)
  · rw [hrun]
    exact h

/-- A call that only asks the router keeps the order. -/
private theorem asked (h : Orderly n) {act : Action Unit} {op : Routing Unit}
    (hact : Session.Asked op act n) (hop : Router.EndsIn op n.router (SameLinks n.router)) :
    Orderly (act.run n).2 := by
  cases hact with
  | done r hok hrun =>
    rw [hrun]
    exact h.withRouter (hop.of_run_ok hok)
  | refused fault r e herr hrun =>
    obtain ⟨failure, rfl⟩ := hop.of_run_error herr
    rw [hrun]
    exact h.withRouter (.refused _ failure)
  | untried e hrun =>
    rw [hrun]
    exact h

/-- To write keeps the order. -/
private theorem write (h : Orderly n) (s : SessionId) (path : Path) (payload : Bytes) (e : Encoding)
    (kind : ChangeKind) : Orderly ((Session.write s path payload e kind).run n).2 :=
  h.asked (Session.write_cases s path payload e kind n)
    (.of_cases (Router.write_cases s n.around.wall path.text payload e kind n.router)
      (.written _ _ _))

/-- A workspace that writes keeps the order. -/
private theorem workspaceWrite (h : Orderly n) (w : Workspace) (p : Path) (payload : Bytes)
    (e : Encoding) (kind : ChangeKind) : Orderly ((w.write p payload e kind).run n).2 := by
  rw [w.write_run]
  cases w.absolutePath p with
  | ok path => exact h.write w.session path payload e kind
  | error err => exact h

/-- To declare a subscriber keeps the order. -/
private theorem declareSubscriber (h : Orderly n) (s : SessionId) (sel : Selector) (mode : SubMode)
    (l : DataListener Surroundings Effect) :
    Orderly ((Session.declareSubscriber s sel mode l).run n).2 := by
  rw [Session.declareSubscriber, run_bind_pure]
  exact h.declare _ s _ _ _ fun k r =>
    .of_cases (Router.declareSubscriber_cases s sel.path mode k r) ⟨rfl, fun _ hl => hl⟩

/-- To declare a storage keeps the order. -/
private theorem declareStorage (h : Orderly n) (s : SessionId) (sel : Selector)
    (l : StorageListener Surroundings Effect) :
    Orderly ((Session.declareStorage s sel l).run n).2 := by
  rw [Session.declareStorage, run_bind_pure]
  exact h.declare _ s _ _ _ fun k r =>
    .of_cases (Router.declareStorage_cases s sel.path k r) ⟨rfl, fun _ hl => hl⟩

/-- To declare a storage in memory keeps the order. -/
private theorem declareMemory (h : Orderly n) (s : SessionId) (sel : Selector) :
    Orderly ((MemoryStorage.declare s sel).run n).2 := by
  have hnext : Orderly { n with nextStore := n.nextStore + 1 } :=
    h.of_tables rfl (fun _ hl => hl) fun _ _ _ => rfl
  rw [MemoryStorage.declare_run]
  exact hnext.declareStorage s sel _

/-- To send a query keeps the order. -/
private theorem query (h : Orderly n) (s : SessionId) (sel : Selector)
    (l : Surroundings → ReplyEvent → Script Effect) :
    Orderly ((Session.query s sel l).run n).2 := by
  have hnext : Orderly { n with tokens := n.tokens + 1 } :=
    h.of_tables rfl (fun _ hl => hl) fun _ _ _ => rfl
  rw [Session.query_run]
  exact hnext.declare _ s _ _ _ fun k r =>
    .of_cases (Router.query_cases s sel.path sel.optionalPart k r) ⟨rfl, fun _ hl => hl⟩

/-- To give up a query keeps the order. -/
private theorem cancelQuery (h : Orderly n) (s : SessionId) (q : PendingQuery) :
    Orderly (Session.cancelQuery s q n).2 :=
  h.keeps (.setBoard n s (Switchboard.settleReply_within _ _ _))

/-- To open a session keeps the order: its board is empty, and the next one is still to come. -/
private theorem openSession (h : Orderly n) (locator : Option String) (properties : Properties) :
    Orderly ((Session.openSession locator properties).run n).2 := by
  rcases Session.openSession_cases locator properties n with hrun | ⟨failure, e, hrun⟩
  · rw [hrun]
    constructor
    · intro s hs
      change ((n.router.links.insert _ _).find? s).isSome = true at hs
      change s < n.router.nextSession + 1
      rw [SortedMap.find?_insert] at hs
      -- the new link is that of the session that was next
      split at hs
      · next heq => exact heq ▸ Nat.lt_succ_self _
      · exact Nat.lt_succ_of_lt (h.links_lt s hs)
    · intro s hs a
      have hlt : n.router.nextSession < s := hs
      rw [board_setBoard, if_neg (Nat.ne_of_gt hlt)]
      exact h.unopened s (Nat.le_of_lt hlt) a
  · rw [hrun]
    exact h.withRouter (.refused _ failure)

/-- A get keeps the order, whatever it delivers in between. -/
private theorem get (h : Orderly n) (w : Workspace) (limit : Nat) (sel : Selector) :
    Orderly ((w.get limit sel).run n).2 := by
  have hquery := h.query w.session (w.absoluteSelector sel)
    (Workspace.gatherListener n.nextGathering w.settings.missingTimestamp)
  rw [w.get_run]
  rcases w.beginGet_cases sel n with ⟨query, m, hq, hbegin⟩ | ⟨e, m, hq, hbegin⟩
  · rw [hq] at hquery
    rw [hbegin]
    dsimp only
    generalize hm' : ({ m with
      nextGathering := m.nextGathering + 1
      gatherings := m.gatherings.insert n.nextGathering {} } : Network) = m'
    have hm : Orderly m' := by
      rw [← hm']
      exact hquery.of_tables rfl (fun _ hl => hl) fun _ _ _ => rfl
    -- what is delivered keeps all registrations
    have hsettle := hm.keeps (evolves_settle limit m').keeps
    generalize (⟨query, n.nextGathering, _⟩ : Workspace.PendingGet) = g
    -- the get is answered, or given up since nothing came
    rcases w.concludeGet_cases sel g (settle limit m') with
      ⟨aggregator, -, hconclude⟩ | ⟨e, -, hconclude⟩
    · rw [hconclude]
      exact hsettle.of_tables rfl (fun _ hl => hl) fun _ _ _ => rfl
    · rw [hconclude]
      exact (hsettle.cancelQuery w.session g.query).of_tables rfl (fun _ hl => hl) fun _ _ _ => rfl
  · rw [hq] at hquery
    rw [hbegin]
    exact hquery

end Orderly

namespace Orderly

/-- Whatever is done, only sessions that were opened have links or listeners. -/
theorem run (h : Orderly n) (op : Operation) : Orderly (op.run n) := by
  -- the links, the next session and the boards are all that counts
  have hsame : ∀ {m : Network}, m.router.links = n.router.links →
      m.router.nextSession = n.router.nextSession → (∀ s, m.board s = n.board s) → Orderly m :=
    fun hl hn hb => h.of_tables hn (fun _ hs => hl ▸ hs) fun s _ _ => by rw [hb s]
  cases op with
  | showWall | failNext | stampReplies => exact hsame rfl rfl fun _ => rfl
  | letGo sessions workspaces => exact hsame rfl rfl (n.board_letGo sessions workspaces)
  | deliver => exact h.keeps n.evolves_deliverNext.keeps
  | answerParked i replies => exact h.keeps (n.evolves_answerParked i replies).keeps
  | openSession locator properties => exact h.openSession locator properties
  | close s =>
    exact h.asked (Session.close_cases s n)
      (.of_cases (Router.closeLink_cases s n.router) (.withoutLink _ s))
  | write s path payload e kind => exact h.write s path payload e kind
  | declareSubscriber s sel mode l => exact h.declareSubscriber s sel mode l
  | undeclareSubscriber s sub =>
    exact h.undeclare _ s _ _ _ fun r =>
      .of_cases (Router.undeclareSubscriber_cases s sub.handle r) ⟨rfl, fun _ hl => hl⟩
  | pull s sub =>
    refine h.asked (Session.pull_cases s sub n) ?_
    refine (Router.pull_cases s sub.handle n.router).imp ?_ id
    rintro ⟨x, -, hok⟩
    exact ⟨_, hok, by exact ⟨rfl, fun _ hl => hl⟩⟩
  | declareStorage s sel l => exact h.declareStorage s sel l
  | undeclareStorage s storage =>
    exact h.undeclare _ s _ _ _ fun r =>
      .of_cases (Router.undeclareStorage_cases s storage.handle r) ⟨rfl, fun _ hl => hl⟩
  | declareMemory s sel => exact h.declareMemory s sel
  | declareEval s path l =>
    change Orderly ((Session.declareEval s path l).run n).2
    rw [Session.declareEval, run_bind_pure]
    exact h.declare _ s _ _ _ fun k r =>
      .of_cases (Router.declareEval_cases s path.text k r) ⟨rfl, fun _ hl => hl⟩
  | undeclareEval s eval =>
    exact h.undeclare _ s _ _ _ fun r =>
      .of_cases (Router.undeclareEval_cases s eval.handle r) ⟨rfl, fun _ hl => hl⟩
  | query s sel l => exact h.query s sel l
  | cancelQuery s q => exact h.cancelQuery s q
  | put w p v => exact h.workspaceWrite w p v.encode v.encoding .put
  | update w p v => exact h.workspaceWrite w p v.encode v.encoding .update
  | remove w p => exact h.workspaceWrite w p [] .raw .remove
  | get w limit sel => exact h.get w limit sel
  | subscribe w sel l =>
    change Orderly ((w.subscribe sel l).run n).2
    rw [w.subscribe_run]
    exact h.declareSubscriber w.session _ .push _
  | unsubscribe w k =>
    change Orderly ((w.unsubscribe k).run n).2
    rw [w.unsubscribe_run]
    cases w.subscriptions.find? k with
    | none => exact h
    | some sub =>
      exact h.undeclare _ w.session _ _ _ fun r =>
        .of_cases (Router.undeclareSubscriber_cases w.session sub.handle r) ⟨rfl, fun _ hl => hl⟩

/-- Every run keeps the order. -/
theorem runAll (h : Orderly n) (ops : List Operation) : Orderly (n.runAll ops) := by
  induction ops generalizing n with
  | nil => exact h
  | cons op rest ih => exact ih (h.run op)

/-- An empty network is in order. -/
theorem start (wall : Instant) (clock : ClockId) (codecs : CodecTable) :
    Orderly (start wall clock codecs) where
  links_lt _ h := by cases h
  unopened _ _ _ := rfl

end Orderly

end Network

end PathSpace
