import PathSpace.Routing.Fault
import PathSpace.Datum.Sample
/-! # Queries on their way

A query asks its sources one after the other, storages first.  What a source answers is
passed on as data events, then the source's last event follows.
-/

namespace PathSpace

/-- The number by which the router knows a session. -/
abbrev SessionId := Nat

/-- Who can answer a query. -/
inductive SourceKind where
  | storage
  | eval
  deriving DecidableEq, Repr

namespace SourceKind

/-- The event that passes a reply on. -/
def dataEvent : SourceKind → Sample → ReplyEvent
  | .storage => .storageData
  | .eval => .evalData

/-- The event that says that a source has said all. -/
def finalEvent : SourceKind → ReplyEvent
  | .storage => .storageFinal
  | .eval => .evalFinal

end SourceKind

/-- One listener to be asked. -/
structure Source where
  kind : SourceKind
  session : SessionId
  handle : Handle
  deriving DecidableEq, Repr

/-- A query with the sources that are still to be asked. -/
structure Query where
  /-- The session that asks. -/
  querier : SessionId
  /-- The handle of its reply listener. -/
  handle : Handle
  expression : String
  optionalPart : String
  /-- Whether replies without a timestamp get one. -/
  stamping : Bool
  sources : List Source
  deriving DecidableEq, Repr

/-- A query that waits for the answer of one source. -/
structure ParkedQuery where
  query : Query
  source : Source
  deriving DecidableEq, Repr

end PathSpace
