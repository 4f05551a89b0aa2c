import PathSpace.Fault.Counters
import PathSpace.Listening.HandleTable
import PathSpace.Listening.RepliesSender
/-! # What listeners do

A listener is a function from what it hears to a `Script`: the things it does, in order,
and whether it fails in the end.  What a listener can do to the world around it is a
parameter `ε`.  `DeliveryMode.run` says what becomes of a script that runs as a unit of
work of its own.
-/

namespace PathSpace

/-- One thing that a listener does. -/
inductive Act (ε : Type) where
  /-- Acts on the world around. -/
  | effect (e : ε)
  /-- Answers the query at hand. -/
  | answer (replies : List Sample)
  /-- Keeps the sender of the query at hand for later. -/
  | retain
  /-- Gives up queries of its own session. -/
  | release (handles : List Handle)
  /-- Starts a unit of work that fails by itself. -/
  | contained (kind : ListenerKind)

/-- What a listener does when it is called. -/
structure Script (ε : Type) where
  acts : List (Act ε) := []
  /-- Whether the listener fails after its last act. -/
  faults : Bool := false

/-- Where the code of listeners and evals runs. -/
inductive DeliveryMode where
  /-- Within the call. -/
  | inline
  /-- As a unit of work of its own. -/
  | detached
  deriving DecidableEq, Repr

namespace DeliveryMode

/-- The name of a mode. -/
def name : DeliveryMode → String
  | .inline => "inline"
  | .detached => "detached"

/-- The mode of that name. -/
def ofName? (s : String) : Option DeliveryMode :=
  [DeliveryMode.inline, .detached].find? (·.name == s)

/-- Runs a job.  A detached job that fails does not take its caller along, but it is
counted under `kind`. -/
def run {ε : Type} (mode : DeliveryMode) (kind : ListenerKind) (job : Script ε) : Script ε :=
  match mode with
  | .inline => job
  | .detached => ⟨if job.faults then job.acts ++ [.contained kind] else job.acts, false⟩

/-- Whether a job runs on the thread of its caller. -/
def onCallerThread (mode : DeliveryMode) : Bool := mode == .inline

/-- Whether the caller of a job fails with it. -/
def faultReachesCaller (mode : DeliveryMode) (jobFaults : Bool) : Bool :=
  (mode.run (ε := Empty) .subscriber ⟨[], jobFaults⟩).faults

end DeliveryMode

end PathSpace
