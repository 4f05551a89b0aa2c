import PathSpace.Address.Wildcard
import PathSpace.Routing.Query
import PathSpace.Time.Clock
/-! # The router

The router connects any number of sessions.  It knows what each session has declared,
stamps writes with its clock, and keeps a queue of jobs: samples to be brought to
listeners and queries to be answered, in the order in which they arose.

Every operation of a session first checks that the session is open, and then whether a
failure has been arranged; only then does it change anything.
-/

namespace PathSpace

open Text (Bytes)

/-- Something a session has declared. -/
structure Declaration where
  session : SessionId
  handle : Handle
  expression : String
  deriving DecidableEq, Repr

/-- Whether a declaration is that of a session under a handle. -/
def Declaration.isOf (d : Declaration) (s : SessionId) (h : Handle) : Bool :=
  d.session == s && d.handle == h

/-- A subscriber that a session has declared. -/
structure SubscriberDeclaration extends Declaration where
  mode : SubMode
  /-- What waits to be pulled. -/
  pending : List Sample := []
  deriving DecidableEq

/-- Something to be delivered. -/
inductive Job where
  | subscriber (session : SessionId) (handle : Handle) (sample : Sample)
  | storage (session : SessionId) (handle : Handle) (sample : Sample)
  | query (query : Query)
  deriving DecidableEq

/-- A failure that the next operations meet. -/
structure ArrangedFailure where
  /-- The number of operations that still fail. -/
  remaining : Nat
  code : Int32
  name : String
  deriving DecidableEq, Repr

/-- One session as the router sees it. -/
structure Link where
  locator : String
  user : Option String
  closed : Bool := false
  deriving DecidableEq, Repr

/-- The state of the router. -/
structure Router where
  subscribers : List SubscriberDeclaration := []
  storages : List Declaration := []
  evals : List Declaration := []
  failure : Option ArrangedFailure := none
  /-- What is to be delivered, in order. -/
  queue : List Job := []
  clock : Clock
  /-- Whether replies without a timestamp are stamped. -/
  stampReplies : Bool := true
  /-- The sessions that were ever opened. -/
  links : SortedMap SessionId Link := ∅
  nextSession : SessionId := 0

/-- An operation on the router; what it changed before it failed stays changed. -/
abbrev Routing (α : Type) := ExceptT TransportFault (StateM Router) α

namespace Router

/-- What every locator starts with. -/
def scheme : String := "loopback/"

/-- The locator of a session that names none. -/
def defaultLocator : String := "loopback/local"

/-- Arranges that the next `count` operations fail. -/
def failNext (r : Router) (count : Nat) (code : Int32) (name : String) : Router :=
  { r with failure := if count = 0 then none else some ⟨count, code, name⟩ }

/-- Whether a session is closed; one that was never opened counts as closed. -/
def isClosed (r : Router) (s : SessionId) : Bool := (r.links.find? s).all (·.closed)

/-- Fails if a failure has been arranged, which then is used up by one. -/
def checkFailure : Routing Unit := do
  match (← get).failure with
  | none => pure ()
  | some f =>
    modify fun r =>
      { r with failure := if f.remaining ≤ 1 then none else some { f with remaining := f.remaining - 1 } }
    throw (.failed f.code f.name)

/-- Begins an operation of a session. -/
def begin (s : SessionId) : Routing Unit := do
  if (← get).isClosed s then throw .closed
  checkFailure

/-- Opens a session. -/
def openLink (locator : Option String) (user : Option String) : Routing SessionId := do
  match locator with
  | some l => if !scheme.toList.isPrefixOf l.toList then throw (.invalidLocator l)
  | none => pure ()
  checkFailure
  let r ← get
  set { r with
    links := r.links.insert r.nextSession ⟨locator.getD defaultLocator, user, false⟩
    nextSession := r.nextSession + 1 }
  return r.nextSession

/-- Closes a session, which loses all that it has declared. -/
def closeLink (s : SessionId) : Routing Unit := do
  -- closing never meets an arranged failure
  if (← get).isClosed s then throw .closed
  modify fun r => { r with
    links := r.links.mapValues fun k l => if k = s then { l with closed := true } else l
    subscribers := r.subscribers.filter (·.session != s)
    storages := r.storages.filter (·.session != s)
    evals := r.evals.filter (·.session != s) }

/-- The jobs that a write causes: pushes to subscribers, then to storages. -/
def writeJobs (r : Router) (sample : Sample) : List Job :=
  let pushed := r.subscribers.filter fun d =>
    d.mode == .push && Wildcard.meet d.expression sample.path
  let stored := r.storages.filter fun d => Wildcard.meet d.expression sample.path
  pushed.map (fun d => .subscriber d.session d.handle sample) ++
    stored.map (fun d => .storage d.session d.handle sample)

/-- Keeps a sample for a subscriber that pulls and is concerned. -/
def keepPending (sample : Sample) (d : SubscriberDeclaration) : SubscriberDeclaration :=
  if d.mode == .pull && Wildcard.meet d.expression sample.path then
    { d with pending := d.pending ++ [sample] }
  else d

/-- Stamps a write and routes it to all whom it concerns. -/
def write (s : SessionId) (wall : Instant) (path : String) (payload : Bytes) (e : Encoding)
    (kind : ChangeKind) : Routing Unit := do
  begin s
  modify fun r =>
    let (stamp, clock) := r.clock.now wall
    let sample : Sample := ⟨path, payload, ⟨some stamp, some e, some kind.toByte⟩⟩
    { r with
      clock
      queue := r.queue ++ r.writeJobs sample
      subscribers := r.subscribers.map (keepPending sample) }

/-- Declares a subscriber. -/
def declareSubscriber (s : SessionId) (expression : String) (mode : SubMode) (h : Handle) :
    Routing Unit := do
  begin s
  modify fun r => { r with
    subscribers := r.subscribers ++ [{ session := s, handle := h, expression, mode }] }

/-- Declares a storage. -/
def declareStorage (s : SessionId) (expression : String) (h : Handle) : Routing Unit := do
  begin s
  modify fun r => { r with storages := r.storages ++ [⟨s, h, expression⟩] }

/-- Declares an eval. -/
def declareEval (s : SessionId) (expression : String) (h : Handle) : Routing Unit := do
  begin s
  modify fun r => { r with evals := r.evals ++ [⟨s, h, expression⟩] }

/-- Takes back the declaration of a subscriber. -/
def undeclareSubscriber (s : SessionId) (h : Handle) : Routing Unit := do
  begin s
  if (← get).subscribers.any (·.isOf s h) then
    modify fun r => { r with subscribers := r.subscribers.filter fun d => !d.isOf s h }
  else throw (.unknownDeclaration h)

/-- Takes back the declaration of a storage. -/
def undeclareStorage (s : SessionId) (h : Handle) : Routing Unit := do
  begin s
  if (← get).storages.any (·.isOf s h) then
    modify fun r => { r with storages := r.storages.filter fun d => !d.isOf s h }
  else throw (.unknownDeclaration h)

/-- Takes back the declaration of an eval. -/
def undeclareEval (s : SessionId) (h : Handle) : Routing Unit := do
  begin s
  if (← get).evals.any (·.isOf s h) then
    modify fun r => { r with evals := r.evals.filter fun d => !d.isOf s h }
  else throw (.unknownDeclaration h)

/-- The declarations with the first one of the session under the handle changed by `f`. -/
def changeFirst (s : SessionId) (h : Handle) (f : SubscriberDeclaration → SubscriberDeclaration) :
    List SubscriberDeclaration → List SubscriberDeclaration
  | [] => []
  | d :: rest => if d.isOf s h then f d :: rest else d :: changeFirst s h f rest

/-- Sends a subscriber what waits for it. -/
def pull (s : SessionId) (h : Handle) : Routing Unit := do
  begin s
  match (← get).subscribers.find? (·.isOf s h) with
  | none => throw (.unknownDeclaration h)
  | some d =>
    modify fun r => { r with
      subscribers := changeFirst s h (fun d => { d with pending := [] }) r.subscribers
      queue := r.queue ++ d.pending.map fun sample => .subscriber s h sample }

/-- The sources among some declarations that a query concerns. -/
def sourcesFor (kind : SourceKind) (expression : String) (ds : List Declaration) : List Source :=
  (ds.filter fun d => Wildcard.meet d.expression expression).map fun d =>
    ⟨kind, d.session, d.handle⟩

/-- Sends a query to all whom it concerns. -/
def query (s : SessionId) (expression optionalPart : String) (h : Handle) : Routing Unit := do
  begin s
  modify fun r => { r with
    queue := r.queue ++ [.query {
      querier := s
      handle := h
      expression
      optionalPart
      stamping := r.stampReplies
      sources := sourcesFor .storage expression r.storages ++ sourcesFor .eval expression r.evals }] }

end Router

end PathSpace
