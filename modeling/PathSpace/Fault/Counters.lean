import PathSpace.Fault.Code
import PathSpace.Collections.SortedMap
/-! # Counters

What goes wrong without reaching a caller is counted: replies that are left out of a
result, and listeners that fail.  Errors that do reach a caller are counted too.
-/

namespace PathSpace

/-- Why a sample was left out. -/
inductive DropReason where
  | invalidPath
  | decode
  | missingTimestamp
  | unknownKind
  deriving DecidableEq, Repr

/-- The name of a reason. -/
def DropReason.name : DropReason → String
  | .invalidPath => "invalid_path"
  | .decode => "decode"
  | .missingTimestamp => "missing_timestamp"
  | .unknownKind => "unknown_kind"

/-- What a listener was called for. -/
inductive ListenerKind where
  | subscriber
  | storage
  | storageQuery
  | eval
  | reply
  deriving DecidableEq, Repr

/-- The name of a kind of listener. -/
def ListenerKind.name : ListenerKind → String
  | .subscriber => "subscriber"
  | .storage => "storage"
  | .storageQuery => "storage_query"
  | .eval => "eval"
  | .reply => "reply"

/-- Something that is counted. -/
inductive Incident where
  /-- An error of that code arose. -/
  | error (code : ErrorCode)
  /-- A sample was left out. -/
  | dropped (reason : DropReason)
  /-- A listener failed. -/
  | listenerFault (kind : ListenerKind)
  deriving DecidableEq, Repr

/-- The name of a counter with its labels in order. -/
def Incident.key : Incident → String
  | .error code =>
    "dataspace_errors_total\x7bcategory=" ++ code.category ++ ",code=" ++ code.name ++
      ",severity=" ++ code.severity.name ++ "\x7d"
  | .dropped reason => "dataspace_dropped_replies_total\x7breason=" ++ reason.name ++ "\x7d"
  | .listenerFault kind => "dataspace_listener_faults_total\x7bkind=" ++ kind.name ++ "\x7d"

/-- What has been counted, in order. -/
structure Counters where
  incidents : List Incident := []

namespace Counters

/-- Counts one incident more. -/
def add (c : Counters) (i : Incident) : Counters := ⟨c.incidents ++ [i]⟩

/-- Counts several incidents. -/
def addAll (c : Counters) (is : List Incident) : Counters := ⟨c.incidents ++ is⟩

/-- How often an incident has been counted. -/
def count (c : Counters) (i : Incident) : Nat := c.incidents.count i

/-- The counters that are not zero, by name. -/
def table (c : Counters) : SortedMap String Nat :=
  c.incidents.foldl (fun m i => m.alter i.key fun n => n.getD 0 + 1) ∅

end Counters

end PathSpace
