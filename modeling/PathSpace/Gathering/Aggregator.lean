import PathSpace.Gathering.Data
/-! # Gathering replies

The replies to one query come from several sources and in any order.  An `Aggregator`
collects them; in the end they are sorted by path and time, and of several replies with
the same path and time the one that came first is kept.

A *series* has all of them, a *snapshot* only the newest of each path.
-/

namespace PathSpace

/-- The replies so far, by path, each group in the order of arrival. -/
structure Aggregator where
  groups : SortedMap Path (List Data) := ∅

namespace Aggregator

/-- The aggregator without replies. -/
def empty : Aggregator := {}

/-- Adds a reply. -/
def push (a : Aggregator) (d : Data) : Aggregator :=
  ⟨a.groups.alter d.path fun group => group.getD [] ++ [d]⟩

/-- Adds several replies. -/
def pushAll (a : Aggregator) (ds : List Data) : Aggregator := ds.foldl push a

/-- The number of replies, repetitions included. -/
def size (a : Aggregator) : Nat := a.groups.values.flatten.length

/-- Whether there is no reply. -/
def isEmpty (a : Aggregator) : Bool := a.groups.isEmpty

/-- Whether `a` is not later than `b`. -/
def notLater (a b : Data) : Bool := compare a.timestamp b.timestamp != .gt

/-- Leaves out every reply with the timestamp of the one before it; `last` is the timestamp
before the first. -/
def dropRepeats (last : Option Timestamp) : List Data → List Data
  | [] => []
  | d :: rest =>
    if last = some d.timestamp then dropRepeats last rest
    else d :: dropRepeats (some d.timestamp) rest

/-- The replies of one path in the order of time, the first of each time only. -/
def history (group : List Data) : List Data := dropRepeats none (group.mergeSort notLater)

/-- What a group contributes to the result. -/
def ofGroup (series : Bool) (group : List Data) : List Data :=
  if series then history group else (history group).getLast?.toList

/-- The result, in the order of the paths. -/
def finish (a : Aggregator) (series : Bool) : List Data := a.groups.values.flatMap (ofGroup series)

end Aggregator

end PathSpace
