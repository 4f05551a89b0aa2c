import PathSpace.Address.Wildcard
import PathSpace.Datum.Sample
/-! # A storage in memory

A `MemoryStore` keeps the newest sample of each path.  A removed path keeps its entry, so
that a write older than the removal does not bring it back.

* `MemoryStore.store` takes a sample in;
* `MemoryStore.find?` and `MemoryStore.answer` give the values that are not removed.
-/

namespace PathSpace

open Text (Bytes)

/-- What is kept for a path. -/
structure Stored where
  payload : Bytes
  info : DataInfo
  /-- The path was removed. -/
  removed : Bool
  deriving DecidableEq

/-- The newest sample of each path. -/
structure MemoryStore where
  entries : SortedMap String Stored := ∅

namespace MemoryStore

/-- What is kept of a sample; a byte that stands for no kind counts as a put. -/
def ofSample (sample : Sample) : Stored :=
  match sample.info.kind.bind ChangeKind.ofByte? with
  | some .remove => ⟨[], sample.info, true⟩
  | _ => ⟨sample.payload, sample.info, false⟩

/-- Whether a sample is older than what is kept. -/
def isStale (kept : Option Stored) (sample : Sample) : Bool :=
  match kept.bind (·.info.timestamp), sample.info.timestamp with
  | some existing, some incoming => incoming.before existing
  -- without two timestamps there is nothing to compare, and the sample is taken in
  | _, _ => false

/-- Takes a sample in, unless it is older than what is kept for its path. -/
def store (m : MemoryStore) (sample : Sample) : MemoryStore :=
  if isStale (m.entries.find? sample.path) sample then m
  else ⟨m.entries.insert sample.path (ofSample sample)⟩

/-- The entries that are not removed. -/
def current (m : MemoryStore) : List (String × Stored) := m.entries.toList.filter fun e => !e.2.removed

/-- The number of paths with a value. -/
def size (m : MemoryStore) : Nat := m.current.length

/-- Whether no path has a value. -/
def isEmpty (m : MemoryStore) : Bool := m.entries.values.all (·.removed)

/-- The value of a path. -/
def find? (m : MemoryStore) (path : String) : Option Stored :=
  (m.entries.find? path).filter fun s => !s.removed

/-- The values whose paths an expression stands for, in the order of the paths. -/
def answer (m : MemoryStore) (expression : String) : List Sample :=
  (m.current.filter fun e => Wildcard.meet expression e.1).map fun e => ⟨e.1, e.2.payload, e.2.info⟩

end MemoryStore

end PathSpace
