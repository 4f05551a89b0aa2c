import PathSpace.Address.Selector
import PathSpace.Network.Delivery
/-! # Sessions

A session declares listeners at the router.  To declare, a listener is parked first and
taken back if the router refuses; to undeclare, the router is asked first and the listener
goes only if it agrees.  So the listeners of a session and its declarations stay in step.
-/

namespace PathSpace

open Text (Bytes)

/-- A declared subscriber. -/
structure Subscriber where
  handle : Handle
  selector : Selector
  mode : SubMode
  deriving DecidableEq

/-- A declared storage. -/
structure Storage where
  handle : Handle
  selector : Selector
  deriving DecidableEq

/-- A declared eval. -/
structure Eval where
  handle : Handle
  path : Path
  deriving DecidableEq

/-- A query whose replies are still expected. -/
structure PendingQuery where
  handle : Handle
  /-- Tells the listener of this query from every other one. -/
  token : Nat
  deriving DecidableEq, Repr

/-- One of the four tables of a switchboard. -/
structure Tray (α : Type) where
  table : Board → HandleTable α
  replace : Board → HandleTable α → Board

namespace Tray

/-- The table of subscribers. -/
def subscribers : Tray (DataListener Surroundings Effect) :=
  ⟨(·.subscribers), fun b t => { b with subscribers := t }⟩

/-- The table of storages. -/
def storages : Tray (StorageListener Surroundings Effect) :=
  ⟨(·.storages), fun b t => { b with storages := t }⟩

/-- The table of evals. -/
def evals : Tray (QueryListener Surroundings Effect) :=
  ⟨(·.evals), fun b t => { b with evals := t }⟩

/-- The table of reply listeners. -/
def replies : Tray (ReplyListener Surroundings Effect) :=
  ⟨(·.replies), fun b t => { b with replies := t }⟩

end Tray

namespace Session

/-- Whether a session is closed. -/
def isClosed (n : Network) (s : SessionId) : Bool := n.router.isClosed s

/-- Fails if the session is closed. -/
def ensureOpen (s : SessionId) (operation : String) : Action Unit := do
  if isClosed (← get) s then throw (.sessionClosed operation)

/-- Runs an operation of the router; its refusal is an error about the resource. -/
def ask (operation resource : String) (op : Routing α) : Action α := fun n =>
  let (result, n) := n.route op
  (result.mapError (.transport operation resource), n)

/-- Parks a listener in one of the tables of a session. -/
def park (tray : Tray α) (s : SessionId) (listener : α) : Action Handle := do
  let n ← get
  match (tray.table (n.board s)).register listener with
  | .error fault => throw (.ofHandleFault fault)
  | .ok (h, table) =>
    set (n.setBoard s (tray.replace (n.board s) table))
    return h

/-- Takes a listener out of one of the tables of a session. -/
def take (tray : Tray α) (s : SessionId) (h : Handle) (n : Network) : Network :=
  let board := n.board s
  n.setBoard s (tray.replace board ((tray.table board).remove h))

/-- Parks a listener and declares it; if the router refuses, the listener is taken back. -/
def declare (tray : Tray α) (s : SessionId) (operation resource : String) (listener : α)
    (op : Handle → Routing Unit) : Action Handle := do
  ensureOpen s operation
  let h ← park tray s listener
  try
    ask operation resource (op h)
    return h
  catch e =>
    modify (take tray s h)
    throw e

/-- Takes a declaration back, and then its listener. -/
def undeclare (tray : Tray α) (s : SessionId) (operation resource : String) (h : Handle)
    (op : Routing Unit) : Action Unit := do
  ensureOpen s operation
  let table := tray.table ((← get).board s)
  -- the router is not even asked, and no arranged failure is used up
  if !table.contains h then throw (.notRegistered table.name resource)
  ask operation resource op
  modify (take tray s h)

/-! ## Opening and closing -/

/-- Opens a session; of the properties the user's name is kept. -/
def openSession (locator : Option String) (properties : Properties) : Action SessionId := do
  let s ← ask "Open" (locator.getD "<default>") (Router.openLink locator (properties.find? "user"))
  modify fun n => n.setBoard s {}
  return s

/-- Closes a session. -/
def close (s : SessionId) : Action Unit := do
  ensureOpen s "Close"
  ask "Close" "session" (Router.closeLink s)

/-- What is known about a session; `peer` is the name that the transport gave it. -/
def info (n : Network) (peer : String) (s : SessionId) : Properties :=
  match n.router.links.find? s with
  | none => ∅
  | some link =>
    let known := (SortedMap.empty.insert "peer" peer).insert "locator" link.locator
    match link.user with
    | none => known
    | some user => known.insert "user" user

/-! ## Operations -/

/-- Writes a payload under a path. -/
def write (s : SessionId) (path : Path) (payload : Bytes) (e : Encoding) (kind : ChangeKind) :
    Action Unit := do
  ensureOpen s "Write"
  let wall := (← get).around.wall
  ask "Write" path.text (Router.write s wall path.text payload e kind)

/-- Declares a subscriber. -/
def declareSubscriber (s : SessionId) (selector : Selector) (mode : SubMode)
    (listener : DataListener Surroundings Effect) : Action Subscriber := do
  let h ← declare .subscribers s "Subscribe" selector.path listener
    (Router.declareSubscriber s selector.path mode)
  return ⟨h, selector, mode⟩

/-- Takes back the declaration of a subscriber. -/
def undeclareSubscriber (s : SessionId) (sub : Subscriber) : Action Unit :=
  undeclare .subscribers s "Unsubscribe" sub.selector.path sub.handle
    (Router.undeclareSubscriber s sub.handle)

/-- Asks for what waits for a subscriber. -/
def pull (s : SessionId) (sub : Subscriber) : Action Unit := do
  ensureOpen s "Pull"
  ask "Pull" sub.selector.path (Router.pull s sub.handle)

/-- Declares a storage. -/
def declareStorage (s : SessionId) (selector : Selector)
    (listener : StorageListener Surroundings Effect) : Action Storage := do
  let h ← declare .storages s "DeclareStorage" selector.path listener
    (Router.declareStorage s selector.path)
  return ⟨h, selector⟩

/-- Takes back the declaration of a storage. -/
def undeclareStorage (s : SessionId) (storage : Storage) : Action Unit :=
  undeclare .storages s "UndeclareStorage" storage.selector.path storage.handle
    (Router.undeclareStorage s storage.handle)

/-- Declares an eval. -/
def declareEval (s : SessionId) (path : Path) (listener : QueryListener Surroundings Effect) :
    Action Eval := do
  let h ← declare .evals s "RegisterEval" path.text listener (Router.declareEval s path.text)
  return ⟨h, path⟩

/-- Takes back the declaration of an eval. -/
def undeclareEval (s : SessionId) (eval : Eval) : Action Unit :=
  undeclare .evals s "UnregisterEval" eval.path.text eval.handle
    (Router.undeclareEval s eval.handle)

/-- Sends a query; the listener hears every reply event of it. -/
def query (s : SessionId) (selector : Selector)
    (listener : Surroundings → ReplyEvent → Script Effect) : Action PendingQuery := do
  -- a query that is refused uses up a token too
  let token := (← get).tokens
  modify fun n => { n with tokens := n.tokens + 1 }
  let h ← declare .replies s "Query" selector.path ⟨token, listener⟩
    (Router.query s selector.path selector.optionalPart)
  return ⟨h, token⟩

/-- Stops listening to the replies of a query; tells whether any could have come. -/
def cancelQuery (s : SessionId) (q : PendingQuery) (n : Network) : Bool × Network :=
  let (cancelled, board) := (n.board s).settleReply q.handle q.token
  (cancelled, n.setBoard s board)

end Session

end PathSpace
