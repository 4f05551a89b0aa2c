import PathSpace.Proofs.Network.Refusals
import PathSpace.Proofs.Network.Subscriptions
import PathSpace.Proofs.Network.Visits
/-!
# Arranged failures, as clients see them

Most calls of a client visit the router once; a call that is refused before it gets there does
not.  What the router answers is what the client is told.  So of the calls after a failure has
been arranged exactly those are told of it whose visits are among the first ones.

## Key results

- `Operation.own`, `Operation.later`: the visit that a call makes by itself, and the visits of
  listeners while it lasts
- `Informed`: a call meets what is left of an arranged failure, and its client hears what came
  of it
- `informed_openAsked`, `informed_declare`, `informed_undeclare`: the three kinds of calls
- `Task.informed`, `Site.spends_runAll`: every call, and every run
- `Site.failures_contained`: a call that fails leaves nothing behind, and a failure that has
  been arranged for a number of operations is met by as many
-/

namespace PathSpace

open PathSpace.Computation PathSpace.Router
open Text (Bytes)

/-! ## Errors that do not come from the transport -/

/-- Only a failure of the transport has a code. -/
private theorem TransportFault.code?_eq_none {fault : TransportFault}
    (h : ∀ code name, fault ≠ .failed code name) : fault.code? = none := by
  cases fault with
  | failed code name => exact absurd rfl (h code name)
  | closed | invalidLocator | unknownDeclaration => rfl

/-- A path that cannot be parsed is no failure of the transport. -/
private theorem Path.transportCode_of_parse {text : String} {e : Error}
    (h : Path.parse text = .error e) :
    e.details.transportCode = none := by
  unfold Path.parse at h
  split at h
  · obtain rfl := Except.error.inj h
    rfl
  · split at h
    · obtain rfl := Except.error.inj h
      rfl
    · cases h

/-- A path that cannot be resolved is no failure of the transport. -/
private theorem Workspace.transportCode_of_absolutePath {w : Workspace} {p : Path} {e : Error}
    (h : w.absolutePath p = .error e) : e.details.transportCode = none := by
  unfold Workspace.absolutePath at h
  split at h
  · exact Path.transportCode_of_parse h
  · cases h

/-! ## The visits of calls -/

namespace Network

variable {α β : Type} (n : Network)

/-- The visit of a declaration, if there is a handle for the listener. -/
def declareVisit (tray : Tray α) (s : SessionId) (operation resource : String) (listener : α)
    (op : Handle → Routing Unit) : Option Visit :=
  match (tray.table (n.board s)).register listener with
  | .ok (h, _) => n.visit s operation resource (op h)
  | .error _ => none

/-- The visit by which a declaration is taken back, if its listener is there. -/
def undeclareVisit (tray : Tray α) (s : SessionId) (operation resource : String) (h : Handle)
    (op : Routing Unit) : Option Visit :=
  if (tray.table (n.board s)).contains h then n.visit s operation resource op else none

/-- The visit of a query. -/
def queryVisit (s : SessionId) (sel : Selector)
    (l : Surroundings → ReplyEvent → Script Effect) : Option Visit :=
  n.declareVisit .replies s "Query" sel.path ⟨n.tokens, l⟩
    (Router.query s sel.path sel.optionalPart)

/-- The visit of a write of a workspace. -/
def workspaceVisit (w : Workspace) (p : Path) (payload : Bytes) (e : Encoding)
    (kind : ChangeKind) : Option Visit :=
  match w.absolutePath p with
  | .ok path => n.writeVisit w.session path payload e kind
  | .error _ => none

end Network

/-- The visit of an offer. -/
def Offer.visit (n : Network) (s : SessionId) : Offer → Option Visit
  | .subscriber sel mode l =>
    n.declareVisit .subscribers s "Subscribe" sel.path l (Router.declareSubscriber s sel.path mode)
  | .storage sel l =>
    n.declareVisit .storages s "DeclareStorage" sel.path l (Router.declareStorage s sel.path)
  | .memory sel =>
    n.declareVisit .storages s "DeclareStorage" sel.path (MemoryStorage.listener n.nextStore)
      (Router.declareStorage s sel.path)
  | .eval path l =>
    n.declareVisit .evals s "RegisterEval" path.text l (Router.declareEval s path.text)

/-- The visit by which a token is given back. -/
def Token.visit (n : Network) (s : SessionId) : Token → Option Visit
  | .subscriber sub =>
    n.undeclareVisit .subscribers s "Unsubscribe" sub.selector.path sub.handle
      (Router.undeclareSubscriber s sub.handle)
  | .storage st =>
    n.undeclareVisit .storages s "UndeclareStorage" st.selector.path st.handle
      (Router.undeclareStorage s st.handle)
  | .eval ev =>
    n.undeclareVisit .evals s "UnregisterEval" ev.path.text ev.handle
      (Router.undeclareEval s ev.handle)

/-- The visit of a chore of a workspace. -/
def Chore.visit (n : Network) (w : Workspace) : Chore → Option Visit
  | .subscribe sel l =>
    (Offer.subscriber (w.absoluteSelector sel) .push
      (Workspace.changeListener w.delivery l)).visit n w.session
  | .unsubscribe h =>
    match w.subscriptions.find? h with
    | some sub => (Token.subscriber sub).visit n w.session
    | none => none
  | .registerEval p eval =>
    match w.absolutePath p with
    | .ok path =>
      if w.evals.contains path then none
      else (Offer.eval path (Workspace.evalListener w.delivery path eval)).visit n w.session
    | .error _ => none
  | .unregisterEval p =>
    match w.absolutePath p with
    | .ok path =>
      match w.evals.find? path with
      | some ev => (Token.eval ev).visit n w.session
      | none => none
    | .error _ => none

namespace Operation

/-- The visit that an operation makes by itself. -/
def own (n : Network) : Operation → Option Visit
  | .openSession locator properties =>
    if knowsLocator locator then
      some (.of "Open" (locator.getD "<default>")
        (Router.openLink locator (properties.find? "user")) n.router)
    else none
  | .write s path payload e kind => n.writeVisit s path payload e kind
  | .pull s sub => n.visit s "Pull" sub.selector.path (Router.pull s sub.handle)
  | .query s sel l => n.queryVisit s sel l
  | .put w p v => n.workspaceVisit w p v.encode v.encoding .put
  | .update w p v => n.workspaceVisit w p v.encode v.encoding .update
  | .remove w p => n.workspaceVisit w p [] .raw .remove
  | .get w _ sel =>
    n.queryVisit w.session (w.absoluteSelector sel)
      (Workspace.gatherListener n.nextGathering w.settings.missingTimestamp)
  | _ => none

/-- The visits that listeners make while an operation lasts. -/
def later (n : Network) : Operation → List Visit
  | .deliver => n.deliverNextVisits
  | .answerParked i replies => n.answerParkedVisits i replies
  | .get w limit sel =>
    match (w.beginGet sel).run n with
    | (.ok _, m) => Network.settleVisits limit m
    | (.error _, _) => []
  | _ => []

end Operation

namespace Task

/-- The visit that a call makes by itself. -/
def own (site : Site) : Task → Option Visit
  | .operate op _ => op.own site.network
  | .declare s offer => offer.visit site.network s
  | .undeclare s token => token.visit site.network s
  | .openWorkspace .. => none
  | .work i chore =>
    match site.workspaces[i]? with
    | some w => chore.visit site.network w
    | none => none

/-- The visits that listeners make while a call lasts. -/
def later (site : Site) : Task → List Visit
  | .operate op _ => op.later site.network
  | .declare .. | .undeclare .. | .openWorkspace .. | .work .. => []

/-- Whether a call arranges failures. -/
def arranges : Task → Bool
  | .operate (.failNext ..) _ => true
  | _ => false

end Task

/-- The visits of a run, in order. -/
def Site.visits : Site → List Task → List Visit
  | _, [] => []
  | site, t :: rest => (t.own site).toList ++ t.later site ++ Site.visits (t.run site) rest

/-! ## What clients are told -/

namespace Network

variable {n m : Network} {s : SessionId} {α β : Type} {visit : Option Visit} {later : List Visit}
  {result : Except Error α × Network} {operation resource : String}

/-- A call meets what is left of an arranged failure.  If the router refuses it, this is what
the client is told; and if no arranged failure is in its way, the client is not told of any. -/
structure Informed (n : Network) (visit : Option Visit) (later : List Visit)
    (result : Except Error α × Network) : Prop where
  spends : Spends n.router.failure (visit.toList ++ later) result.2.router.failure
  refused : ∀ v fault, visit = some v → v.answer = .error fault →
    result.1 = .error (.transport v.operation v.resource fault)
  unharmed : (∀ v, visit = some v → ∀ code name, v.answer ≠ .error (.failed code name)) →
    ∀ e, result.1 = .error e → e.details.transportCode = none

/-- A call that only lets listeners go on. -/
private theorem informed_later (a : α) (hspends : Spends n.router.failure later m.router.failure) :
    Informed n none later (.ok a, m) where
  spends := hspends
  refused := nofun
  unharmed _ := nofun

/-- A call that is refused before it gets as far as the router. -/
private theorem informed_refused {e : Error} (he : e.details.transportCode = none) :
    Informed n none [] ((.error e, n) : Except Error α × Network) where
  spends := .nil _
  refused := nofun
  unharmed _ e' he' := by
    obtain rfl := Except.error.inj he'
    exact he

/-- A call that the router agrees to. -/
private theorem informed_ok {op : Routing β} {b : β} {r : Router} (hmeets : Meets op n.router)
    (hop : op.run n.router = (.ok b, r)) (a : α) (hm : m.router.failure = r.failure) :
    Informed n (some (.of operation resource op n.router)) [] (.ok a, m) where
  spends := by
    have hspends := Spends.single hmeets operation resource
    rw [hop] at hspends
    rw [hm]
    exact hspends
  -- the router did not refuse
  refused v fault hv hanswer := by
    obtain rfl := Option.some.inj hv
    have herror : (op.run n.router).1 = .error fault := error_of_map hanswer
    rw [hop] at herror
    cases herror
  unharmed _ := nofun

/-- A call that the router refuses. -/
private theorem informed_error {op : Routing β} {fault : TransportFault} {r : Router}
    (hmeets : Meets op n.router) (hop : op.run n.router = (.error fault, r))
    (hm : m.router.failure = r.failure) :
    Informed n (some (.of operation resource op n.router)) []
      ((.error (.transport operation resource fault), m) : Except Error α × Network) where
  spends := by
    have hspends := Spends.single hmeets operation resource
    rw [hop] at hspends
    rw [hm]
    exact hspends
  refused v fault' hv hanswer := by
    obtain rfl := Option.some.inj hv
    have herror : (op.run n.router).1 = .error fault' := error_of_map hanswer
    rw [hop] at herror
    obtain rfl := Except.error.inj herror
    rfl
  unharmed hquiet e he := by
    -- only an arranged failure comes with a code, and none was met
    have hanswer : ∀ code name, fault ≠ .failed code name := by
      rintro code name rfl
      apply hquiet _ rfl code name
      show (op.run n.router).1.map (fun _ => ()) = _
      rw [hop]
      rfl
    obtain rfl := Except.error.inj he
    exact TransportFault.code?_eq_none hanswer

/-- What is made of the result does not change what the client is told of failures. -/
private theorem Informed.map {f : α → β} (h : Informed n visit later result) :
    Informed n visit later (result.1.map f, result.2) where
  spends := h.spends
  refused v fault hv hanswer := by
    have hresult := h.refused v fault hv hanswer
    simp only [hresult]
    rfl
  unharmed hquiet e he := h.unharmed hquiet e (error_of_map he)

/-! ### The three kinds of calls -/

/-- Only an open session asks the router, and it passes on what the router says. -/
private theorem informed_if_open {op : Routing Unit} {asked : Except Error α × Network}
    (hmeets : n.router.isClosed s = false → Meets op n.router)
    (hok : ∀ r, op.run n.router = (.ok (), r) →
      ∃ a m, asked = (.ok a, m) ∧ m.router.failure = r.failure)
    (herror : ∀ fault r, op.run n.router = (.error fault, r) →
      ∃ m, asked = (.error (.transport operation resource fault), m) ∧
        m.router.failure = r.failure) :
    Informed n (n.visit s operation resource op) []
      (if Session.isClosed n s then (.error (.sessionClosed operation), n) else asked) := by
  unfold visit
  -- a closed session does not ask the router at all
  cases hclosed : Session.isClosed n s with
  | true =>
    rw [if_pos rfl, if_pos rfl]
    exact informed_refused rfl
  | false =>
    rw [if_neg Bool.false_ne_true, if_neg Bool.false_ne_true]
    rcases hop : op.run n.router with ⟨fault | ⟨⟩, r⟩
    · obtain ⟨m, rfl, hm⟩ := herror fault r hop
      exact informed_error (hmeets hclosed) hop hm
    · obtain ⟨a, m, rfl, hm⟩ := hok r hop
      exact informed_ok (hmeets hclosed) hop a hm

/-- An operation that only asks the router. -/
theorem informed_openAsked (op : Network → Routing Unit) {act : Action Unit}
    (hact : act = do
      Session.ensureOpen s operation
      let n ← get
      Session.ask operation resource (op n))
    (hmeets : n.router.isClosed s = false → Meets (op n) n.router) :
    Informed n (n.visit s operation resource (op n)) [] (act.run n) := by
  rw [Session.openAsked_run op hact]
  apply informed_if_open hmeets
  · intro r hop
    rw [hop]
    exact ⟨(), _, rfl, rfl⟩
  · intro fault r hop
    rw [hop]
    exact ⟨_, rfl, rfl⟩

/-- A listener is parked first, and the router is asked if there was a handle for it. -/
theorem informed_declare (tray : Tray α) {listener : α} {op : Handle → Routing Unit}
    (hmeets : n.router.isClosed s = false → ∀ h, Meets (op h) n.router) :
    Informed n (n.declareVisit tray s operation resource listener op) []
      ((Session.declare tray s operation resource listener op).run n) := by
  rw [Session.declare_run, declareVisit]
  rcases (tray.table (n.board s)).register listener with fault | ⟨h, t⟩
  · -- there is no handle, whether the session is open or not
    dsimp only
    split <;> exact informed_refused rfl
  · -- with a handle in hand it depends on the router
    apply informed_if_open fun hopen => hmeets hopen h
    · intro r hop
      simp only [hop]
      exact ⟨h, _, rfl, rfl⟩
    · intro fault r hop
      simp only [hop]
      exact ⟨_, rfl, rfl⟩

/-- The router is asked if the listener is there. -/
theorem informed_undeclare (tray : Tray α) {h : Handle} {op : Routing Unit}
    (hmeets : n.router.isClosed s = false → Meets op n.router) :
    Informed n (n.undeclareVisit tray s operation resource h op) []
      ((Session.undeclare tray s operation resource h op).run n) := by
  rw [Session.undeclare_run, undeclareVisit]
  -- a handle that is not in use is refused before the router is asked
  by_cases hcontains : (tray.table (n.board s)).contains h = true
  · rw [if_pos hcontains, if_pos hcontains]
    apply informed_if_open hmeets
    · intro r hop
      simp only [hop]
      exact ⟨(), _, rfl, rfl⟩
    · intro fault r hop
      simp only [hop]
      exact ⟨_, rfl, rfl⟩
  · rw [if_neg hcontains, if_neg hcontains]
    split <;> exact informed_refused rfl

/-! ### The calls of a session -/

/-- A write makes one visit, and the client is told what became of it. -/
private theorem informed_write (n : Network) (s : SessionId) (path : Path) (payload : Bytes)
    (e : Encoding)
    (kind : ChangeKind) :
    Informed n (n.writeVisit s path payload e kind) []
      ((Session.write s path payload e kind).run n) :=
  informed_openAsked (fun n => Router.write s n.around.wall path.text payload e kind) rfl
    fun hopen => meets_write hopen ..

/-- A pull makes one visit, and the client is told what became of it. -/
private theorem informed_pull (n : Network) (s : SessionId) (sub : Subscriber) :
    Informed n (n.visit s "Pull" sub.selector.path (Router.pull s sub.handle)) []
      ((Session.pull s sub).run n) :=
  informed_openAsked (fun _ => Router.pull s sub.handle) rfl fun hopen => meets_pull hopen _

/-- A query makes one visit, and the client is told what became of it. -/
private theorem informed_query (n : Network) (s : SessionId) (sel : Selector)
    (l : Surroundings → ReplyEvent → Script Effect) :
    Informed n (n.queryVisit s sel l) [] ((Session.query s sel l).run n) := by
  rw [Session.query_run]
  -- the new token is of no interest to the router
  have hdeclare := @informed_declare { n with tokens := n.tokens + 1 } s _ "Query" sel.path .replies
    ⟨n.tokens, l⟩ (Router.query s sel.path sel.optionalPart)
    fun hopen h => meets_query hopen sel.path sel.optionalPart h
  exact Informed.map ⟨hdeclare.spends, hdeclare.refused, hdeclare.unharmed⟩

/-- To close a session makes no visit. -/
private theorem informed_close (n : Network) (s : SessionId) :
    Informed n none [] ((Session.close s).run n) := by
  rw [Session.close_run]
  split
  · exact informed_refused rfl
  · exact informed_later () (.nil _)

/-- To open a session makes one visit, if the locator is known. -/
private theorem informed_openSession (n : Network) (locator : Option String)
    (properties : Properties) :
    Informed n ((Operation.openSession locator properties).own n) []
      ((Session.openSession locator properties).run n) := by
  rw [Session.openSession_run, Operation.own]
  cases hknown : knowsLocator locator with
  | true =>
    have hmeets := meets_openLink hknown (properties.find? "user") n.router
    rw [if_pos rfl]
    rcases hop : (Router.openLink locator (properties.find? "user")).run n.router with
      ⟨fault | session, r⟩
    · exact informed_error hmeets hop rfl
    · exact informed_ok hmeets hop session rfl
  | false =>
    -- an unknown locator is refused before the arranged failure is looked at
    obtain ⟨l, hop⟩ := openLink_of_not_known hknown (properties.find? "user") n.router
    rw [if_neg Bool.false_ne_true, hop]
    exact informed_refused rfl

/-- To declare makes one visit, and the client is told what became of it. -/
private theorem informed_offer (n : Network) (s : SessionId) (offer : Offer) :
    Informed n (offer.visit n s) [] ((offer.declare s).run n) := by
  cases offer with
  | subscriber sel mode l =>
    rw [Offer.declare, run_bind_pure, Session.declareSubscriber, run_bind_pure]
    exact (informed_declare .subscribers fun hopen h =>
      meets_declareSubscriber hopen _ mode h).map.map
  | storage sel l =>
    rw [Offer.declare, run_bind_pure, Session.declareStorage, run_bind_pure]
    exact (informed_declare .storages fun hopen h => meets_declareStorage hopen _ h).map.map
  | memory sel =>
    rw [Offer.declare, run_bind_pure, MemoryStorage.declare_run, Session.declareStorage,
      run_bind_pure]
    -- the new store is of no interest to the router
    have hdeclare := @informed_declare { n with nextStore := n.nextStore + 1 } s _ "DeclareStorage"
      sel.path .storages (MemoryStorage.listener n.nextStore) (Router.declareStorage s sel.path)
      fun hopen h => meets_declareStorage hopen sel.path h
    have hinformed : Informed n ((Offer.memory sel).visit n s) [] _ :=
      ⟨hdeclare.spends, hdeclare.refused, hdeclare.unharmed⟩
    exact hinformed.map.map.map
  | eval path l =>
    rw [Offer.declare, run_bind_pure, Session.declareEval, run_bind_pure]
    exact (informed_declare .evals fun hopen h => meets_declareEval hopen _ h).map.map

/-- To take back makes one visit, and the client is told what became of it. -/
private theorem informed_token (n : Network) (s : SessionId) (token : Token) :
    Informed n (token.visit n s) [] ((token.undeclare s).run n) := by
  cases token with
  | subscriber sub =>
    exact informed_undeclare .subscribers fun hopen => meets_undeclareSubscriber hopen _
  | storage st => exact informed_undeclare .storages fun hopen => meets_undeclareStorage hopen _
  | eval ev => exact informed_undeclare .evals fun hopen => meets_undeclareEval hopen _

/-! ### The calls of a workspace -/

/-- A workspace that writes makes one visit, if its path can be resolved. -/
private theorem informed_workspaceWrite (n : Network) (w : Workspace) (p : Path) (payload : Bytes)
    (e : Encoding) (kind : ChangeKind) :
    Informed n (n.workspaceVisit w p payload e kind) [] ((w.write p payload e kind).run n) := by
  rw [w.write_run, workspaceVisit]
  cases hp : w.absolutePath p with
  | error err => exact informed_refused (Workspace.transportCode_of_absolutePath hp)
  | ok path => exact informed_write n w.session path payload e kind

/-- A chore makes the visit of its call, if it comes to the call. -/
private theorem informed_chore (n : Network) (w : Workspace) (chore : Chore) :
    Informed n (chore.visit n w) [] ((chore.perform w).run n) := by
  cases chore with
  | subscribe sel l =>
    rw [Chore.perform_subscribe, Session.declareSubscriber, run_bind_pure]
    exact (informed_declare .subscribers fun hopen h =>
      meets_declareSubscriber hopen _ .push h).map.map
  | unsubscribe h =>
    rw [Chore.perform_unsubscribe, Chore.visit]
    cases w.subscriptions.find? h with
    | none => exact informed_refused rfl
    | some sub => exact (informed_token n w.session (.subscriber sub)).map
  | registerEval p eval =>
    rw [Chore.perform_registerEval, Chore.visit]
    cases hp : w.absolutePath p with
    | error e => exact informed_refused (Workspace.transportCode_of_absolutePath hp)
    | ok path =>
      dsimp only
      by_cases hcontains : w.evals.contains path = true
      · rw [if_pos hcontains, if_pos hcontains]
        exact informed_refused rfl
      · rw [if_neg hcontains, if_neg hcontains, Session.declareEval, run_bind_pure]
        exact (informed_declare .evals fun hopen h => meets_declareEval hopen _ h).map.map
  | unregisterEval p =>
    rw [Chore.perform_unregisterEval, Chore.visit]
    cases hp : w.absolutePath p with
    | error e => exact informed_refused (Workspace.transportCode_of_absolutePath hp)
    | ok path =>
      dsimp only
      cases w.evals.find? path with
      | none => exact informed_refused rfl
      | some ev => exact (informed_token n w.session (.eval ev)).map

/-- Whether the answer has come or not, the router has nothing to do with the end of a get. -/
private theorem concludeGet_quiet (n : Network) (w : Workspace) (sel : Selector)
    (g : Workspace.PendingGet) :
    ((w.concludeGet sel g).run n).2.router = n.router ∧
      ∀ e, ((w.concludeGet sel g).run n).1 = .error e → e.details.transportCode = none := by
  rw [Workspace.concludeGet, run_bind, run_get]
  rcases hfound : n.gatherings.find? g.gathering with - | ⟨aggregator, concluded⟩
  · simp only [hfound]
    refine ⟨rfl, fun e he => ?_⟩
    obtain rfl := Except.error.inj he
    rfl
  · -- answered, or given up with an error of its own
    cases concluded with
    | true =>
      simp only [hfound]
      refine ⟨rfl, fun e he => ?_⟩
      cases he
    | false =>
      simp only [hfound]
      refine ⟨rfl, fun e he => ?_⟩
      obtain rfl := Except.error.inj he
      rfl

/-- A get makes a visit of its own, and then waits for listeners. -/
private theorem informed_get (n : Network) (w : Workspace) (limit : Nat) (sel : Selector) :
    Informed n ((Operation.get w limit sel).own n) ((Operation.get w limit sel).later n)
      ((w.get limit sel).run n) := by
  have hquery := informed_query n w.session (w.absoluteSelector sel)
    (Workspace.gatherListener n.nextGathering w.settings.missingTimestamp)
  rw [w.get_run, Operation.own, Operation.later]
  rcases w.beginGet_cases sel n with ⟨query, m, hrun, hbegin⟩ | ⟨e, m, hrun, hbegin⟩
  · rw [hbegin]
    rw [hrun] at hquery
    dsimp only
    generalize hbegun : ({ m with
      nextGathering := m.nextGathering + 1
      gatherings := m.gatherings.insert n.nextGathering {} } : Network) = begun
    have hrouter : begun.router = m.router := by rw [← hbegun]
    obtain ⟨hsettled, hquiet⟩ := concludeGet_quiet (settle limit begun) w sel
      ⟨query, n.nextGathering, (w.absoluteSelector sel).isForSeries⟩
    have hasked := hquery.spends
    -- what is delivered in between may make visits of its own
    have hsettle := spends_settle limit begun
    rw [List.append_nil] at hasked
    refine ⟨?_, fun v fault hv hanswer => ?_, fun _ => hquiet⟩
    · rw [hrouter] at hsettle
      rw [hsettled]
      exact hasked.append hsettle
    · -- the query would have been refused
      have hrefused := hquery.refused v fault hv hanswer
      cases hrefused
  · rw [hbegin]
    rw [hrun] at hquery
    exact hquery.map (f := fun _ => [])

end Network

/-! ## Calls and runs -/

/-- The client of an operation is told what became of its visit. -/
private theorem Operation.informed (op : Operation) (n : Network) (hop : op.isOrdinary = true)
    (hquiet : ∀ count code name, op ≠ .failNext count code name) :
    n.Informed (op.own n) (op.later n) (op.answer n, op.run n) := by
  cases op with
  | failNext count code name => exact absurd rfl (hquiet count code name)
  | showWall | stampReplies | letGo | cancelQuery => exact Network.informed_later () (.nil _)
  | deliver => exact Network.informed_later () n.spends_deliverNext
  | answerParked i replies => exact Network.informed_later () (n.spends_answerParked i replies)
  | openSession locator properties => exact (n.informed_openSession locator properties).map
  | close s => exact n.informed_close s
  | write s path payload e kind => exact n.informed_write s path payload e kind
  | pull s sub => exact n.informed_pull s sub
  | query s sel l => exact (n.informed_query s sel l).map
  | put w p v => exact n.informed_workspaceWrite w p _ _ .put
  | update w p v => exact n.informed_workspaceWrite w p _ _ .update
  | remove w p => exact n.informed_workspaceWrite w p _ _ .remove
  | get w limit sel => exact (n.informed_get w limit sel).map
  | _ => cases hop

namespace Task

/-- What is taken over from an operation is what was told. -/
private theorem informed_take {α : Type} {site : Site} {result : Except Error α × Network}
    {f : α → Site → Site} {visit : Option Visit}
    (h : site.network.Informed visit [] result)
    (hf : ∀ a site', (f a site').network = site'.network) :
    site.network.Informed visit [] ((site.take result f).1, (site.take result f).2.network) := by
  rcases result with ⟨e | a, n⟩
  · exact h.map (f := fun _ => ())
  · rw [Site.take, hf]
    exact h.map (f := fun _ => ())

/-- Every call meets what is left of an arranged failure, and its client is told. -/
theorem informed (t : Task) (site : Site) (hquiet : t.arranges = false) :
    site.network.Informed (t.own site) (t.later site)
      ((t.attempt site).1, (t.run site).network) := by
  cases t with
  | operate op hop =>
    apply op.informed site.network hop
    -- a task that arranges failures is excluded
    rintro count code name rfl
    cases hquiet
  | declare s offer => exact informed_take (site.network.informed_offer s offer) fun _ _ => rfl
  | undeclare s token => exact informed_take (site.network.informed_token s token) fun _ _ => rfl
  | openWorkspace root s settings => exact Network.informed_later () (.nil _)
  | work i chore =>
    cases hw : site.workspaces[i]? with
    | none =>
      simp only [own, run, attempt_work_missing i chore hw, hw]
      exact Network.informed_later () (.nil _)
    | some w =>
      simp only [own, run, attempt_work i chore hw, hw]
      exact informed_take (site.network.informed_chore w chore) fun _ _ => rfl

end Task

namespace Site

/-- The visits of a run meet what is left of an arranged failure one after the other. -/
theorem spends_runAll (site : Site) (tasks : List Task)
    (hquiet : ∀ t ∈ tasks, t.arranges = false) :
    Spends site.network.router.failure (site.visits tasks)
      (site.runAll tasks).network.router.failure := by
  induction tasks generalizing site with
  | nil => exact .nil _
  | cons t rest ih =>
    have hfirst := (t.informed site (hquiet t List.mem_cons_self)).spends
    have hrest := ih (t.run site) fun u hu => hquiet u (List.mem_cons_of_mem t hu)
    exact hfirst.append hrest

/-- In the router a failure is arranged for the next `count` operations, and now calls are
carried out. -/
structure FailsFirst (count : Nat) (code : Int32) (name : String) (site : Site)
    (tasks : List Task) : Prop where
  /-- The first visits fail with it and change nothing. -/
  early : ∀ (i : Nat) (v : Visit), (site.visits tasks)[i]? = some v → i < count →
    v.answer = .error (.failed code name) ∧
      v.left = { v.found with failure := spend v.found.failure }
  /-- Later visits find no arranged failure, and do not fail in that way. -/
  late : ∀ (i : Nat) (v : Visit), (site.visits tasks)[i]? = some v → count ≤ i →
    v.found.failure = none ∧ ∀ code' name', v.answer ≠ .error (.failed code' name')
  /-- What is left is arranged for as many operations as have not come yet. -/
  left : (site.runAll tasks).network.router.failure =
    arranged (count - (site.visits tasks).length) code name
  /-- The client whose call comes next is told of the failure if it is still there. -/
  told : ∀ (t : Task) (v : Visit), t.arranges = false → t.own (site.runAll tasks) = some v →
    (site.visits tasks).length < count →
    (t.attempt (site.runAll tasks)).1 =
      .error (.transport v.operation v.resource (.failed code name))
  /-- Otherwise the client is not told of any failure of the transport. -/
  untold : ∀ (t : Task) (e : Error), t.arranges = false →
    t.own (site.runAll tasks) = none ∨ count ≤ (site.visits tasks).length →
    (t.attempt (site.runAll tasks)).1 = .error e → e.details.transportCode = none

/-- As long as not all failures have been used up, one is arranged. -/
private theorem arranged_of_lt {count i : Nat} (hi : i < count) (code : Int32) (name : String) :
    arranged (count - i) code name = some ⟨count - i, code, name⟩ := by
  have hsome : ¬ count - i = 0 := by omega
  rw [arranged, if_neg hsome]

/-- After the last of them none is arranged. -/
private theorem arranged_of_le {count i : Nat} (hi : count ≤ i) (code : Int32) (name : String) :
    arranged (count - i) code name = none := by
  have hnone : count - i = 0 := by omega
  rw [arranged, if_pos hnone]

/-- When the next calls are to fail, it is the first visits that fail. -/
private theorem failsFirst_of_failNext (count : Nat) (code : Int32) (name : String) (site : Site)
    (tasks : List Task) (hquiet : ∀ t ∈ tasks, t.arranges = false) :
    FailsFirst count code name ((Task.operate (.failNext count code name) rfl).run site) tasks := by
  set armed := (Task.operate (.failNext count code name) rfl).run site
  have hspends : Spends (arranged count code name) (armed.visits tasks)
      (armed.runAll tasks).network.router.failure := armed.spends_runAll tasks hquiet
  obtain ⟨hvisits, hleft⟩ := hspends.of_arranged
  -- the visit of the next call finds what is left
  have hnext : ∀ (t : Task) (v : Visit), t.arranges = false →
      t.own (armed.runAll tasks) = some v →
      v.Met ∧ v.found.failure = arranged (count - (armed.visits tasks).length) code name := by
    intro t v ht hv
    have hspends := (t.informed (armed.runAll tasks) ht).spends
    rw [hv, Option.toList_some, List.singleton_append, hleft] at hspends
    exact hspends.head
  constructor
  case left => exact hleft
  case early =>
    intro i v hv hi
    obtain ⟨hmet, hfound⟩ := hvisits i v hv
    rw [arranged_of_lt hi] at hfound
    exact hmet.fails _ hfound
  case late =>
    intro i v hv hi
    obtain ⟨hmet, hfound⟩ := hvisits i v hv
    rw [arranged_of_le hi] at hfound
    exact ⟨hfound, hmet.unharmed hfound⟩
  case told =>
    intro t v ht hv hfew
    obtain ⟨hmet, hfound⟩ := hnext t v ht hv
    rw [arranged_of_lt hfew] at hfound
    have hanswer := (hmet.fails _ hfound).1
    exact (t.informed (armed.runAll tasks) ht).refused v _ hv hanswer
  case untold =>
    intro t e ht hwhy he
    apply (t.informed (armed.runAll tasks) ht).unharmed _ e he
    intro v hv
    rcases hwhy with hnone | hmany
    · rw [hnone] at hv
      cases hv
    · obtain ⟨hmet, hfound⟩ := hnext t v ht hv
      rw [arranged_of_le hmany] at hfound
      exact hmet.unharmed hfound

/-- A call that fails leaves nothing behind; and of the operations that reach the router after
failures have been arranged as many fail as were arranged, and no more. -/
theorem failures_contained :
    (∀ (site : Site) (t : Task) (e : Error), t.isAtomic = true →
      (t.attempt site).1 = .error e → site.Unmoved (t.run site)) ∧
    ∀ (site : Site) (count : Nat) (code : Int32) (name : String) (tasks : List Task),
      (∀ t ∈ tasks, t.arranges = false) →
      FailsFirst count code name ((Task.operate (.failNext count code name) rfl).run site) tasks :=
  ⟨fun _ t _ hatomic hfail => t.unmoved_of_error hatomic hfail,
    fun site count code name tasks hquiet =>
      failsFirst_of_failNext count code name site tasks hquiet⟩

/-! ### Three subscriptions, two of which fail -/

/-- To open a session is an ordinary operation. -/
theorem openSession_isOrdinary : (Operation.openSession none ∅).isOrdinary = true := rfl

/-- A client with a workspace. -/
def luckyClient : Site :=
  (start ⟨0⟩ .zero {}).runAll
    [.operate (.openSession none ∅) openSession_isOrdinary, .openWorkspace Network.leafPath 0 {}]

/-- The client when the router is about to lose two operations. -/
def unluckyClient : Site := (Task.operate (.failNext 2 7 "lost") rfl).run luckyClient

/-- The client subscribes. -/
def subscribing : Task := .work 0 (.subscribe Network.leafSelector fun _ => {})

/-- The first two subscriptions are lost, and the third one is not. -/
theorem failures_contained_of_unluckyClient :
    unluckyClient.Unmoved (subscribing.run unluckyClient) ∧
      (∃ v, (unluckyClient.visits [subscribing, subscribing, subscribing])[1]? = some v ∧
        v.answer = .error (.failed 7 "lost")) ∧
      ∃ v, (unluckyClient.visits [subscribing, subscribing, subscribing])[2]? = some v ∧
        v.found.failure = none ∧ v.answer = .ok () := by
  obtain ⟨hatomic, hcount⟩ := failures_contained
  have hquiet : ∀ t ∈ [subscribing, subscribing, subscribing], t.arranges = false := by
    simp [subscribing, Task.arranges]
  have hfails : FailsFirst 2 7 "lost" unluckyClient [subscribing, subscribing, subscribing] :=
    hcount luckyClient 2 7 "lost" _ hquiet
  refine ⟨?_, ⟨_, rfl, ?_⟩, ⟨_, rfl, ?_, rfl⟩⟩
  · exact hatomic unluckyClient subscribing
      (.transport "Subscribe" "a/b/a/*" (.failed 7 "lost")) rfl rfl
  · exact (hfails.early 1 _ rfl (by decide)).1
  · exact (hfails.late 2 _ rfl (by decide)).1

end Site

end PathSpace
