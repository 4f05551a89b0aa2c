import PathSpace.Datum.Value
import PathSpace.Time.Timestamp
/-! # Samples and reply events

A sample is what travels: a path, a payload and what is known about them.  A query is
answered by reply events, the last of which is `replyFinal`.
-/

namespace PathSpace

open Text (Bytes)

/-- The kind of a write. -/
inductive ChangeKind where
  | put
  | update
  | remove
  deriving DecidableEq, Repr

namespace ChangeKind

/-- The byte that stands for a kind. -/
def toByte : ChangeKind → UInt8
  | .put => 0
  | .update => 1
  | .remove => 2

/-- The kind of a byte. -/
def ofByte? (b : UInt8) : Option ChangeKind :=
  [ChangeKind.put, .update, .remove].find? (·.toByte == b)

/-- The name of a kind. -/
def name : ChangeKind → String
  | .put => "PUT"
  | .update => "UPDATE"
  | .remove => "REMOVE"

/-- The kind of that name. -/
def ofName? (s : String) : Option ChangeKind :=
  [ChangeKind.put, .update, .remove].find? (·.name == s)

end ChangeKind

/-- How a subscriber gets its data. -/
inductive SubMode where
  /-- As soon as it is written. -/
  | push
  /-- When the subscriber asks for it. -/
  | pull
  deriving DecidableEq, Repr

namespace SubMode

/-- The name of a mode. -/
def name : SubMode → String
  | .push => "push"
  | .pull => "pull"

/-- The mode of that name. -/
def ofName? (s : String) : Option SubMode := [SubMode.push, .pull].find? (·.name == s)

end SubMode

/-- What is known about a payload. -/
structure DataInfo where
  timestamp : Option Timestamp := none
  encoding : Option Encoding := none
  /-- The byte of a kind; it need not stand for one. -/
  kind : Option UInt8 := none
  deriving DecidableEq

/-- A payload under a path. -/
structure Sample where
  path : String
  payload : Bytes
  info : DataInfo := {}
  deriving DecidableEq

/-- One piece of the answer to a query. -/
inductive ReplyEvent where
  | storageData (sample : Sample)
  /-- One storage has said all. -/
  | storageFinal
  | evalData (sample : Sample)
  /-- One eval has said all. -/
  | evalFinal
  /-- Everyone has said all. -/
  | replyFinal
  deriving DecidableEq

namespace ReplyEvent

/-- Whether no event follows. -/
def isFinal (e : ReplyEvent) : Bool := e == .replyFinal

/-- The sample of a data event. -/
def sample? : ReplyEvent → Option Sample
  | .storageData s | .evalData s => some s
  | _ => none

end ReplyEvent

end PathSpace
