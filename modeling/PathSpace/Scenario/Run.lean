import PathSpace.Scenario.Step
/-! # Running a scenario

Each step is carried out, and then everything that it has set in motion is delivered.  The
calls that listeners note meanwhile belong to the step.

* `Scenario.take` carries out one step;
* `Scenario.run` carries out all steps and counts what went wrong.

A name may be given again.  What it stood for before is let go: nobody holds a session any more
when the last client, workspace, memory storage or link with it is gone.
-/

namespace PathSpace.Scenario

open Text (Bytes)

/-- A storage that a step has declared. -/
inductive NamedStorage where
  | memory (m : MemoryStorage)
  /-- One of the session of a client. -/
  | declared (client : String) (s : Storage)

/-- Something that belongs to the session of a client, whichever it has by then. -/
structure Owned (α : Type) where
  client : String
  item : α

/-- A workspace with its number. -/
structure NumberedWorkspace where
  id : WorkspaceId
  workspace : Workspace

/-- A network with the names that the steps so far have given. -/
structure State where
  network : Network
  clients : SortedMap String Client := ∅
  workspaces : SortedMap String NumberedWorkspace := ∅
  subscribers : SortedMap String (Owned Subscriber) := ∅
  queries : SortedMap String (Owned PendingQuery) := ∅
  storages : SortedMap String NamedStorage := ∅
  subscriptions : SortedMap String Handle := ∅
  links : SortedMap String SessionId := ∅
  nextWorkspace : WorkspaceId := 0

namespace State

/-- The sessions that something with a name holds. -/
def sessions (s : State) : List SessionId :=
  s.clients.values.map (·.session) ++ s.workspaces.values.map (·.workspace.session) ++
    s.links.values ++ s.storages.values.filterMap fun
      | .memory m => some m.session
      | .declared _ _ => none

/-- Lets go of the sessions and workspaces that nothing with a name holds. -/
def letGo (s : State) : State :=
  let used := s.workspaces.values.map fun w => (w.id, w.workspace.session)
  { s with network := s.network.keepOnly s.sessions (.ofList used) }

end State

/-- The number of jobs that one step may set in motion. -/
def deliveryLimit : Nat := 100000

/-- The name that the transport gives a session. -/
def peerName : String := String.ofList (List.replicate 32 '0')

/-- A part of a step: it gives an outcome, and changes the state. -/
abbrev Play := State → Outcome × State

namespace Play

/-- Gives an outcome and changes nothing. -/
def done (o : Outcome) : Play := fun s => (o, s)

/-- Goes on with what a name stands for. -/
def named (m : State → SortedMap String α) (name : String) (next : α → Play) : Play := fun s =>
  match (m s).find? name with
  | some a => next a s
  | none => (.unknownName name, s)

/-- Goes on with a value, unless it is an error. -/
def parsed (e : Except Error α) (next : α → Play) : Play :=
  match e with
  | .ok a => next a
  | .error e => done (.failed e)

/-- Changes the network. -/
def onNetwork (f : Network → Network) (next : Play) : Play := fun s =>
  next { s with network := f s.network }

/-- Carries out an operation and goes on with its result. -/
def act (op : Action α) (next : α → Play) : Play := fun s =>
  let (result, network) := op.run s.network
  parsed result next { s with network }

/-- Carries out an operation of the router and goes on with its result. -/
def route (op : Routing α) (next : α → Play) : Play := fun s =>
  let (result, network) := s.network.route op
  match result with
  | .ok a => next a { s with network }
  | .error f => (.refused f, { s with network })

/-- Changes the state and gives an outcome. -/
def storing (f : State → State) (o : Outcome) : Play := fun s => (o, f s)

/-- Gives an outcome that depends on the state. -/
def look (f : State → Outcome) : Play := fun s => (f s, s)

end Play

open Play

/-- Goes on with the workspace of that name and its number. -/
def inWorkspace (name : String) (next : WorkspaceId → Workspace → Play) : Play :=
  named State.workspaces name fun w => next w.id w.workspace

/-- Remembers a workspace under the name and the number that it has. -/
def storeWorkspace (name : String) (id : WorkspaceId) (w : Workspace) (s : State) : State :=
  { s with workspaces := s.workspaces.insert name ⟨id, w⟩ }

/-- Remembers a new workspace. -/
def addWorkspace (name : String) (w : Workspace) (s : State) : State :=
  { storeWorkspace name s.nextWorkspace w s with nextWorkspace := s.nextWorkspace + 1 }

/-- Calls listeners of a session directly. -/
def dispatch (s : SessionId) (f : Board → Surroundings → Reaction Surroundings Effect) : Play :=
  onNetwork (fun n => n.absorb s (f (n.board s) n.around)) (done .none)

/-- Takes the number of a new store. -/
def newStore (next : StoreId → Play) : Play := fun s =>
  let n := s.network
  next n.nextStore { s with network := { n with nextStore := n.nextStore + 1 } }

/-- Logs in and remembers the client. -/
def loginAs (name : String) (op : Action Client) : Play :=
  act op fun c s =>
    (.loggedIn (Session.info s.network peerName c.session),
      { s with clients := s.clients.insert name c })

/-- Parks a listener of a link. -/
def park (tray : Tray α) (session : SessionId) (listener : α) : Play := fun s =>
  let board := s.network.board session
  match (tray.table board).register listener with
  | .ok (h, t) => (.number h, { s with network := s.network.setBoard session (tray.replace board t) })
  | .error f => (.unavailable f, s)

/-- Registers a listener of a link. -/
def register (session : SessionId) (name : String) : LinkListener → Play
  | .subscriber faults => park .subscribers session (dataListener name faults)
  | .storage c faults => newStore fun store =>
    park .storages session (storageListener name store c faults)
  | .eval c => newStore fun store => park .evals session (queryListener name store c)
  | .reply faults => fun s =>
    let n := s.network
    park .replies session ⟨n.tokens, replyListener name faults⟩
      { s with network := { n with tokens := n.tokens + 1 } }

/-- Goes on with the session of a client. -/
def sessionOf (client : String) (next : SessionId → Play) : Play :=
  named State.clients client fun c => next c.session

/-- A path, if one is given. -/
def optionalPath (p : Option String) : Except Error (Option Path) :=
  match p with
  | none => .ok none
  | some p => some <$> Path.parse p

/-- Carries out a step. -/
def play : Step → Play
  | .failNext count code name =>
    onNetwork (fun n => { n with router := n.router.failNext count code name }) (done .none)
  | .stampReplies on =>
    onNetwork (fun n => { n with router := { n.router with stampReplies := on } }) (done .none)
  | .counts => look fun s =>
    let r := s.network.router
    .counts r.storages.length r.subscribers.length r.evals.length
  | .releaseParked samples => fun s =>
    let (count, network) := s.network.releaseParked samples
    (.number count, { s with network })
  | .login client locator properties => loginAs client (Client.login locator properties)
  | .loginWith client settings => loginAs client (Client.loginWith settings)
  | .logout client => named State.clients client fun c => act c.logout fun _ => done .ok
  | .clientState client => named State.clients client fun c => look fun s =>
    .state (Session.isClosed s.network c.session) (s.network.board c.session).sizes
  | .write client path payload e kind => named State.clients client fun c =>
    parsed (Path.parse path) fun p => act (Session.write c.session p payload e kind) fun _ => done .ok
  | .sessionSub client name selector mode faults => named State.clients client fun c =>
    parsed (Selector.parse selector) fun sel =>
    act (Session.declareSubscriber c.session sel mode (dataListener name faults)) fun sub =>
    storing (fun s => { s with subscribers := s.subscribers.insert name ⟨client, sub⟩ })
      (.subscribed sub)
  | .sessionUnsub name client => named State.subscribers name fun o =>
    sessionOf (client.getD o.client) fun session =>
    act (Session.undeclareSubscriber session o.item) fun _ => done .ok
  | .pull name client => named State.subscribers name fun o =>
    sessionOf (client.getD o.client) fun session => act (Session.pull session o.item) fun _ => done .ok
  | .query client name selector => named State.clients client fun c =>
    parsed (Selector.parse selector) fun sel =>
    act (Session.query c.session sel (replyListener name false)) fun q =>
    storing (fun s => { s with queries := s.queries.insert name ⟨client, q⟩ }) (.queried q.handle)
  | .cancelQuery name => named State.queries name fun o => sessionOf o.client fun session s =>
    let (cancelled, network) := Session.cancelQuery session o.item s.network
    (.cancelled cancelled, { s with network })
  | .injectData client h sample => named State.clients client fun c =>
    dispatch c.session fun b around => b.data around h sample
  | .injectStorageData client h sample => named State.clients client fun c =>
    dispatch c.session fun b around => b.storageData around h sample
  | .injectReply client h e => named State.clients client fun c =>
    dispatch c.session fun b around => b.reply around h e
  | .memoryStorage client name selector => named State.clients client fun c =>
    parsed (Selector.parse selector) fun sel => act (MemoryStorage.declare c.session sel) fun m =>
    storing (fun s => { s with storages := s.storages.insert name (.memory m) }) .ok
  | .storage client name selector conduct faults => named State.clients client fun c =>
    parsed (Selector.parse selector) fun sel => newStore fun store =>
    act (Session.declareStorage c.session sel (storageListener name store conduct faults)) fun d =>
    storing (fun s => { s with storages := s.storages.insert name (.declared client d) })
      (.stored d)
  | .undeclareStorage name => named State.storages name fun
    | .memory m => fun s =>
      act m.undeclare (fun _ => done .ok) { s with storages := s.storages.erase name }
    | .declared client d => sessionOf client fun session =>
      act (Session.undeclareStorage session d) fun _ => done .ok
  | .memoryState name path => named State.storages name fun
    | .memory m => look fun s =>
      let store := m.contents s.network
      .memory m.storage.selector store.size store.isEmpty (store.find? path)
    | .declared _ _ => done (.unknownName name)
  | .workspace client name root source => named State.clients client fun c =>
    parsed (Path.parse root) fun root =>
    let w :=
      match source with
      | .client => c.workspace root
      | .detached => c.detachedWorkspace root
      | .settings settings => c.workspaceWith root settings
    storing (addWorkspace name w) (.workspace w.root w.delivery)
  | .put ws path v => inWorkspace ws fun _ w =>
    parsed (Path.parse path) fun p => act (w.put p v) fun _ => done .ok
  | .update ws path v => inWorkspace ws fun _ w =>
    parsed (Path.parse path) fun p => act (w.update p v) fun _ => done .ok
  | .remove ws path => inWorkspace ws fun _ w =>
    parsed (Path.parse path) fun p => act (w.remove p) fun _ => done .ok
  | .get ws selector => inWorkspace ws fun _ w =>
    parsed (Selector.parse selector) fun sel =>
    act (w.get deliveryLimit sel) fun ds => done (.data ds)
  | .getAbandon ws selector => inWorkspace ws fun _ w =>
    parsed (Selector.parse selector) fun sel s =>
    match (w.beginGet sel).run s.network with
    | (.ok g, network) => (.finished false, { s with network := w.abandonGet g network })
    | (.error _, network) => (.finished true, { s with network })
  | .subscribe ws name selector faultAt forward => inWorkspace ws fun id w =>
    parsed (Selector.parse selector) fun sel => parsed (optionalPath forward) fun target =>
    act (w.subscribe sel (changeListener name id w faultAt target)) fun (h, w) =>
    storing (fun s =>
        { storeWorkspace ws id w s with subscriptions := s.subscriptions.insert name h })
      (.subscription h)
  | .unsubscribe ws name => inWorkspace ws fun id w =>
    named State.subscriptions name fun h =>
    act (w.unsubscribe h) fun w => storing (storeWorkspace ws id w) .ok
  | .registerEval ws name path c => inWorkspace ws fun id w =>
    parsed (Path.parse path) fun p =>
    act (w.registerEval p (evaluate name c)) fun w => storing (storeWorkspace ws id w) .ok
  | .unregisterEval ws path => inWorkspace ws fun id w =>
    parsed (Path.parse path) fun p =>
    act (w.unregisterEval p) fun w => storing (storeWorkspace ws id w) .ok
  | .workspaceState ws => inWorkspace ws fun _ w =>
    done (.workspaceState w.evalPaths w.subscriptions.size)
  | .closeWorkspace ws => inWorkspace ws fun id w s =>
    let (closing, network) := w.close.run s.network
    let s := storeWorkspace ws id closing.workspace { s with network }
    match closing.firstError with
    | none => (.ok, s)
    | some e => (.failed e, s)
  | .linkOpen link locator properties =>
    route (Router.openLink locator (properties.find? "user")) fun session =>
    onNetwork (fun n => n.setBoard session {}) fun s =>
      (.linkInfo (Session.info s.network peerName session),
        { s with links := s.links.insert link session })
  | .linkRegister link name listener => named State.links link fun session =>
    register session name listener
  | .linkDeclare link d expression h => named State.links link fun session =>
    let op :=
      match d with
      | .subscriber mode => Router.declareSubscriber session expression mode h
      | .storage => Router.declareStorage session expression h
      | .eval => Router.declareEval session expression h
    route op fun _ => done .ok
  | .linkUndeclare link d h => named State.links link fun session =>
    let op :=
      match d with
      | .subscriber _ => Router.undeclareSubscriber session h
      | .storage => Router.undeclareStorage session h
      | .eval => Router.undeclareEval session h
    route op fun _ => done .ok
  | .linkPull link h => named State.links link fun session =>
    route (Router.pull session h) fun _ => done .ok
  | .linkWrite link path payload e kind => named State.links link fun session s =>
    route (Router.write session s.network.around.wall path payload e kind) (fun _ => done .ok) s
  | .linkQuery link expression optionalPart h => named State.links link fun session =>
    route (Router.query session expression optionalPart h) fun _ => done .ok
  | .linkClose link => named State.links link fun session =>
    route (Router.closeLink session) fun _ => done .ok
  | .linkState link => named State.links link fun session => look fun s =>
    .sizes (s.network.board session).sizes
  | .linkDrop link => named State.links link fun _ =>
    storing (fun s => { s with links := s.links.erase link }) .none

/-- The outcome of a step with the calls that were noted because of it. -/
structure Result where
  outcome : Outcome
  calls : List (String × Call)

namespace Result

/-- The calls of each listener, in order. -/
def byListener (r : Result) : SortedMap String (List Call) :=
  r.calls.foldl (fun m c => m.alter c.1 fun calls => calls.getD [] ++ [c.2]) ∅

end Result

/-- Delivers everything that is under way. -/
def settle (s : State) : State := { s with network := s.network.settle deliveryLimit }

/-- Carries out a step and everything that it sets in motion. -/
def take (s : State) (step : Step) : Result × State :=
  let (outcome, s) := play step { s with network := { s.network with calls := [] } }
  let s := settle s.letGo
  (⟨outcome, s.network.calls⟩, s)

/-- Carries out steps one after the other. -/
def takeAll (s : State) : List Step → List Result × State
  | [] => ([], s)
  | step :: rest =>
    let (r, s) := take s step
    let (rs, s) := takeAll s rest
    (r :: rs, s)

/-- Gives up all senders that were kept. -/
def finish (s : State) : State :=
  settle { s with network := (s.network.releaseParked []).2 }

/-- Carries out a scenario on a fresh network. -/
def run (n : Network) (steps : List Step) : List Result × Counters :=
  let (results, s) := takeAll { network := n } steps
  (results, (finish s).network.counters)

end PathSpace.Scenario
