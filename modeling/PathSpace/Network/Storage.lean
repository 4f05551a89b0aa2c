import PathSpace.Network.Session
/-! # Memory storages

A memory storage is a `MemoryStore` that a session has declared for a selector: writes go
into the store, and queries are answered from it.
-/

namespace PathSpace

/-- A memory store that a session has declared. -/
structure MemoryStorage where
  session : SessionId
  storage : Storage
  store : StoreId
  deriving DecidableEq

namespace MemoryStorage

/-- The listener of a memory store. -/
def listener (store : StoreId) : StorageListener Surroundings Effect where
  data _ sample := { acts := [.effect (.remember store sample)] }
  query around expression _ :=
    { acts := [.answer (((around.memories.find? store).getD {}).answer expression)] }

/-- Declares an empty store for all paths that a selector stands for. -/
def declare (s : SessionId) (selector : Selector) : Action MemoryStorage := do
  let store := (← get).nextStore
  modify fun n => { n with nextStore := n.nextStore + 1 }
  let storage ← Session.declareStorage s selector (listener store)
  return ⟨s, storage, store⟩

/-- What a memory storage holds. -/
def contents (m : MemoryStorage) (n : Network) : MemoryStore :=
  (n.around.memories.find? m.store).getD {}

/-- Takes the declaration back. -/
def undeclare (m : MemoryStorage) : Action Unit := Session.undeclareStorage m.session m.storage

end MemoryStorage

end PathSpace
