import PathSpace.Gathering.Aggregator
import PathSpace.Listening.Switchboard
import PathSpace.Routing.Router
import PathSpace.Storing.HistoryStore
import PathSpace.Storing.MemoryStore
/-! # The network

A `Network` is a router with the switchboards of all sessions and everything that their
listeners look at and act on: stores, queries being gathered, notes of calls, counters.

`Action` is an operation of a client: it may fail, and what it did before stays done.
-/

namespace PathSpace

open Text (Bytes)

/-- A call that a listener has noted. -/
inductive Call where
  | data (sample : Sample)
  | query (expression optionalPart : String)
  | event (e : ReplyEvent)
  /-- A batch of changes, told to a subscriber of a workspace. -/
  | changes (batch : List Change)
  /-- A value was asked for. -/
  | eval (path : Path) (properties : Properties)

/-- The number of a store. -/
abbrev StoreId := Nat

/-- The number of a gathering. -/
abbrev GatheringId := Nat

/-- The number of a workspace. -/
abbrev WorkspaceId := Nat

/-- What listeners can do to the network. -/
inductive Effect where
  /-- Notes a call under the name of the listener. -/
  | note (listener : String) (call : Call)
  /-- Puts a sample into a memory store. -/
  | remember (store : StoreId) (sample : Sample)
  /-- Puts a sample into a history store. -/
  | record (store : StoreId) (sample : Sample)
  /-- Adds a datum to a gathering. -/
  | gather (gathering : GatheringId) (data : Data)
  /-- Ends a gathering. -/
  | conclude (gathering : GatheringId)
  /-- Leaves a sample out. -/
  | drop (reason : DropReason)
  /-- Puts a value under a path through a workspace, if that is still in use.  A failure has no
  consequences. -/
  | publish (workspace : WorkspaceId) (path : Path) (value : Value)

/-- What listeners can look at. -/
structure Surroundings where
  /-- What the wall clock shows. -/
  wall : Instant
  /-- How payloads are read. -/
  codecs : CodecTable
  memories : SortedMap StoreId MemoryStore := ∅
  histories : SortedMap StoreId HistoryStore := ∅

/-- The listeners of one session of a network. -/
abbrev Board := Switchboard Surroundings Effect

/-- The listeners of a session, and whether anybody still holds the session. -/
structure Host where
  board : Board := {}
  held : Bool := true

/-- The replies to a query so far. -/
structure Gathering where
  aggregator : Aggregator := {}
  /-- Whether the last event has come. -/
  concluded : Bool := false

/-- A router with its sessions. -/
structure Network where
  router : Router
  around : Surroundings
  hosts : SortedMap SessionId Host := ∅
  gatherings : SortedMap GatheringId Gathering := ∅
  /-- The queries that wait for a sender to be used, in the order in which they came. -/
  parked : List ParkedQuery := []
  /-- The calls noted so far, in order. -/
  calls : List (String × Call) := []
  counters : Counters := {}
  /-- The workspaces in use, each with its session. -/
  workspaces : SortedMap WorkspaceId SessionId := ∅
  /-- The number of reply listeners made so far. -/
  tokens : Nat := 0
  nextStore : StoreId := 0
  nextGathering : GatheringId := 0

/-- An operation of a client; what it did before it failed stays done. -/
abbrev Action (α : Type) := ExceptT Error (StateM Network) α

namespace Network

/-- A network without sessions, while the wall clock shows `wall`. -/
def start (wall : Instant) (clock : ClockId) (codecs : CodecTable) : Network where
  router := { clock := { id := clock } }
  around := { wall, codecs }

/-- The listeners of a session. -/
def board (n : Network) (s : SessionId) : Board := ((n.hosts.find? s).map (·.board)).getD {}

/-- Replaces the listeners of a session. -/
def setBoard (n : Network) (s : SessionId) (b : Board) : Network :=
  { n with hosts := n.hosts.alter s fun h => { h.getD {} with board := b } }

/-- Whether listeners of a session can be called: somebody holds the session, or a query of
it is under way. -/
def isAlive (n : Network) (s : SessionId) : Bool :=
  (n.hosts.find? s).any (·.held) || n.parked.any (·.query.querier == s)

/-- The network in which just the given sessions are held and the given workspaces in use. -/
def keepOnly (n : Network) (sessions : List SessionId)
    (workspaces : SortedMap WorkspaceId SessionId) : Network :=
  { n with
    hosts := n.hosts.mapValues fun s host => { host with held := sessions.contains s }
    workspaces }

/-- Runs an operation of the router. -/
def route (n : Network) (op : Routing α) : Except TransportFault α × Network :=
  let (result, router) := op.run n.router
  (result, { n with router })

/-- Changes a gathering that is under way. -/
def changeGathering (n : Network) (id : GatheringId) (f : Gathering → Gathering) : Network :=
  match n.gatherings.find? id with
  | some g => { n with gatherings := n.gatherings.insert id (f g) }
  | none => n

/-- Changes what listeners can look at. -/
def changeAround (n : Network) (f : Surroundings → Surroundings) : Network :=
  { n with around := f n.around }

/-- Carries an effect out. -/
def perform (n : Network) : Effect → Network
  | .note listener call => { n with calls := n.calls ++ [(listener, call)] }
  | .remember store sample =>
    n.changeAround fun a =>
      { a with memories := a.memories.alter store fun m => (m.getD {}).store sample }
  | .record store sample =>
    n.changeAround fun a =>
      { a with histories := a.histories.alter store fun h => (h.getD {}).store sample }
  | .gather id data => n.changeGathering id fun g => { g with aggregator := g.aggregator.push data }
  | .conclude id => n.changeGathering id fun g => { g with concluded := true }
  | .drop reason => { n with counters := n.counters.add (.dropped reason) }
  | .publish workspace path value =>
    match n.workspaces.find? workspace with
    | some s => (n.route (Router.write s n.around.wall path.text value.encode value.encoding .put)).2
    | none => n

/-- Takes over what came of a call to a listener of a session. -/
def absorb (n : Network) (s : SessionId) (r : Reaction Surroundings Effect) : Network :=
  let n := r.effects.foldl perform (n.setBoard s r.board)
  { n with counters := n.counters.addAll (r.faults.map .listenerFault) }

end Network

end PathSpace
