import PathSpace.Collections.SortedMap
import PathSpace.Fault.Error
/-! # Tables of listeners

The transport knows a listener only by a number, its *handle*.  A `HandleTable` gives
out handles and keeps the listeners.  Handles stay below the capacity of the table; a
counter runs through them cyclically, so a released handle is not given out again while
others that have been free for longer lie ahead.

* `register` parks a listener under the next free handle;
* `lookup`, `release` and `releaseIf` find it again.
-/

namespace PathSpace

/-- The number by which the transport knows a listener. -/
abbrev Handle := Nat

/-- Why a table cannot serve. -/
inductive HandleFault where
  /-- Every handle is in use. -/
  | exhausted (table : String) (capacity : Nat)
  /-- No listener has the handle. -/
  | unknown (table : String) (handle : Handle)
  deriving DecidableEq, Repr

namespace HandleFault

/-- The wording of a fault. -/
def message : HandleFault → String
  | .exhausted table capacity =>
    "all " ++ Decimal.natText capacity ++ " handles of the " ++ table ++ " registry are in use"
  | .unknown table handle =>
    "handle " ++ Decimal.natText handle ++ " is not registered in the " ++ table ++ " registry"

end HandleFault

/-- An error that a table could not serve. -/
def Error.ofHandleFault (fault : HandleFault) : Error where
  code :=
    match fault with
    | .exhausted .. => .internalError
    | .unknown .. => .notRegistered
  userMessage := "Listener handle unavailable"
  internalMessage := some fault.message
  source := some fault.message

/-- Listeners by handle. -/
structure HandleTable (α : Type) where
  name : String
  /-- The number of handles. -/
  capacity : Nat
  /-- The listeners that are parked. -/
  entries : SortedMap Handle α := ∅
  /-- The handle at which the search for a free one starts. -/
  next : Handle := 0
  next_lt : next < capacity
  entries_lt : ∀ e ∈ entries.toList, e.1 < capacity

namespace HandleTable

variable {α : Type}

/-- The number of handles of a table that is not told otherwise. -/
def defaultCapacity : Nat := UInt32.size

/-- A table without listeners; it has room for at least one. -/
def ofCapacity (name : String) (capacity : Nat) : HandleTable α where
  name := name
  capacity := max capacity 1
  entries := ∅
  next := 0
  next_lt := Nat.le_max_right capacity 1
  entries_lt := by intro e he; cases he

/-- A table of the default size. -/
def ofName (name : String) : HandleTable α := ofCapacity name defaultCapacity

/-- The number of listeners. -/
def size (t : HandleTable α) : Nat := t.entries.size

/-- Whether there is no listener. -/
def isEmpty (t : HandleTable α) : Bool := t.size == 0

/-- Whether a listener has the handle. -/
def contains (t : HandleTable α) (h : Handle) : Bool := t.entries.contains h

/-- The handles in use, in order. -/
def handles (t : HandleTable α) : List Handle := t.entries.keys

/-- The handle after `h`, cyclically. -/
def successor (t : HandleTable α) (h : Handle) : Handle := (h + 1) % t.capacity

theorem successor_lt (t : HandleTable α) (h : Handle) : t.successor h < t.capacity :=
  Nat.mod_lt _ (Nat.lt_of_le_of_lt (Nat.zero_le _) t.next_lt)

/-- Walks from `h` over at most `steps` handles in use. -/
def probe (t : HandleTable α) : (steps : Nat) → Handle → Handle
  | 0, h => h
  | steps + 1, h => if t.contains h then probe t steps (t.successor h) else h

theorem probe_lt (t : HandleTable α) (steps : Nat) {h : Handle} (hh : h < t.capacity) :
    t.probe steps h < t.capacity := by
  induction steps generalizing h with
  | zero => exact hh
  | succ steps ih =>
    rw [probe]
    split
    · exact ih (t.successor_lt h)
    · exact hh

/-- The first free handle from the counter on; in a table that is not full there is one
behind at most as many handles as are in use. -/
def firstFree (t : HandleTable α) : Handle := t.probe t.size t.next

/-- Parks a listener. -/
def register (t : HandleTable α) (listener : α) : Except HandleFault (Handle × HandleTable α) :=
  if t.capacity ≤ t.size then .error (.exhausted t.name t.capacity)
  else
    let h := t.firstFree
    .ok (h, { t with
      entries := t.entries.insert h listener
      next := t.successor h
      next_lt := t.successor_lt h
      entries_lt := by
        intro e he
        rcases SortedMap.mem_of_mem_insert he with rfl | he
        · exact t.probe_lt t.size t.next_lt
        · exact t.entries_lt e he })

/-- The listener that has the handle. -/
def lookup (t : HandleTable α) (h : Handle) : Except HandleFault α :=
  match t.entries.find? h with
  | some listener => .ok listener
  | none => .error (.unknown t.name h)

/-- The table without the listener of `h`. -/
def remove (t : HandleTable α) (h : Handle) : HandleTable α :=
  { t with
    entries := t.entries.erase h
    entries_lt := fun e he => t.entries_lt e (SortedMap.mem_of_mem_erase he) }

/-- Takes the listener that has the handle out of the table. -/
def release (t : HandleTable α) (h : Handle) : Except HandleFault (α × HandleTable α) :=
  (t.lookup h).map fun listener => (listener, t.remove h)

/-- Takes the listener out of the table if it still is the one that `accepts` knows. -/
def releaseIf (t : HandleTable α) (h : Handle) (accepts : α → Bool) : Option α × HandleTable α :=
  match t.entries.find? h with
  | some listener => if accepts listener then (some listener, t.remove h) else (none, t)
  | none => (none, t)

end HandleTable

end PathSpace
