import PathSpace.Address.Path
import PathSpace.Datum.Codec
import PathSpace.Datum.Extension
import PathSpace.Datum.Sample
import PathSpace.Fault.Counters
/-! # Data and changes

A workspace turns the samples that reach it into data, as the answer to a query, or into
changes, as news for a subscriber.  A sample that makes no sense is left out, and the
reason is given.

* `Data.ofReply` reads a sample of an answer;
* `Change.ofSample` reads a sample of a subscription.
-/

namespace PathSpace

/-- A value with its path and the time of its writing. -/
structure Data where
  path : Path
  value : Value
  timestamp : Timestamp
  deriving DecidableEq

/-- A change that a subscriber is told of. -/
structure Change where
  path : Path
  kind : ChangeKind
  timestamp : Option Timestamp
  /-- The new value; a removal has none. -/
  value : Option Value
  deriving DecidableEq

/-- What to do with a reply that has no timestamp. -/
inductive MissingTimestamp where
  /-- Stamp it with the wall clock. -/
  | synthesize
  /-- Leave it out. -/
  | reject
  deriving DecidableEq, Repr

namespace MissingTimestamp

/-- The name of a policy. -/
def name : MissingTimestamp → String
  | .synthesize => "synthesize"
  | .reject => "reject"

/-- The policy of that name. -/
def ofName? (s : String) : Option MissingTimestamp :=
  [MissingTimestamp.synthesize, .reject].find? (·.name == s)

/-- The timestamp of a reply that came at `wall`. -/
def stamp (policy : MissingTimestamp) (wall : Instant) (found : Option Timestamp) :
    Except DropReason Timestamp :=
  match found, policy with
  | some t, _ => .ok t
  | none, .synthesize => .ok (.synthesize wall)
  | none, .reject => .error .missingTimestamp

end MissingTimestamp

namespace Sample

/-- The path of a sample, if its text is one. -/
def readPath (s : Sample) : Except DropReason Path :=
  (Path.parse s.path).mapError fun _ => .invalidPath

/-- The value of a sample; without an encoding its bytes are taken as they are. -/
def readValue (codecs : CodecTable) (s : Sample) : Except DropReason Value :=
  (codecs.decode (s.info.encoding.getD .raw) s.payload).mapError fun _ => .decode

/-- The kind of a sample; without one it is a put. -/
def readKind (s : Sample) : Except DropReason ChangeKind :=
  match s.info.kind with
  | none => .ok .put
  | some b =>
    match ChangeKind.ofByte? b with
    | some kind => .ok kind
    | none => .error .unknownKind

end Sample

namespace Data

/-- Reads a sample of an answer. -/
def ofReply (codecs : CodecTable) (policy : MissingTimestamp) (wall : Instant) (s : Sample) :
    Except DropReason Data := do
  let path ← s.readPath
  let value ← s.readValue codecs
  let timestamp ← policy.stamp wall s.info.timestamp
  return ⟨path, value, timestamp⟩

/-- A datum for a reader. -/
def text (d : Data) : String :=
  d.path.text ++ " : " ++ d.value.text ++ " (" ++ d.timestamp.text ++ ")"

end Data

namespace Change

/-- Reads a sample of a subscription. -/
def ofSample (codecs : CodecTable) (s : Sample) : Except DropReason Change := do
  let path ← s.readPath
  match ← s.readKind with
  -- the payload of a removal is not read, so it cannot fail
  | .remove => return ⟨path, .remove, s.info.timestamp, none⟩
  | kind => return ⟨path, kind, s.info.timestamp, some (← s.readValue codecs)⟩

end Change

end PathSpace
