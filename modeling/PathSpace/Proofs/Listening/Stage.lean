import PathSpace.Scenario.Drill
import PathSpace.Proofs.Listening.HandleTable
/-!
# A switchboard in use

The listeners of a switchboard are called in the course of a run, which also parks listeners and
takes them back.  During a call a listener sees how things stand; it may leave notes, which all
listeners see later, answer, keep its sender, give up handles of any table, start units of work,
and fail.

## Key results

- `Switchboard.dispatch_eq`: a message leads to at most one call, and a reaction is what comes of
  its script
- `Stage.step`, `Stage.run`: what comes of the steps of a run
-/

namespace PathSpace

variable {σ ε ρ ν : Type}

namespace Switchboard

/-! ## Listeners and messages -/

/-- Any listener. -/
inductive Listener (σ ε : Type) where
  | subscriber (l : DataListener σ ε)
  | storage (l : StorageListener σ ε)
  | eval (l : QueryListener σ ε)
  | reply (l : ReplyListener σ ε)

/-- What the transport has for the listener of a handle. -/
inductive Message where
  | data (h : Handle) (sample : Sample)
  | storageData (h : Handle) (sample : Sample)
  | storageQuery (h : Handle) (expression optionalPart : String)
  | evalQuery (h : Handle) (expression optionalPart : String)
  | reply (h : Handle) (event : ReplyEvent)

namespace Message

/-- What a listener is called for. -/
def kind : Message → ListenerKind
  | data .. => .subscriber
  | storageData .. => .storage
  | storageQuery .. => .storageQuery
  | evalQuery .. => .eval
  | reply .. => .reply

/-- Whether a sender comes with a message. -/
def isQuery : Message → Bool
  | data .. | storageData .. | reply .. => false
  | storageQuery .. | evalQuery .. => true

end Message

/-- A listener that is called, with what it hears and what it does then. -/
structure Call (σ ε : Type) where
  listener : Listener σ ε
  message : Message
  script : Script ε

/-- Parks a listener in its table. -/
def register (b : Switchboard σ ε) :
    Listener σ ε → Except HandleFault (Handle × Switchboard σ ε)
  | .subscriber l => (b.subscribers.register l).map fun r => (r.1, { b with subscribers := r.2 })
  | .storage l => (b.storages.register l).map fun r => (r.1, { b with storages := r.2 })
  | .eval l => (b.evals.register l).map fun r => (r.1, { b with evals := r.2 })
  | .reply l => (b.replies.register l).map fun r => (r.1, { b with replies := r.2 })

/-- Takes the listener that has the handle out of a table. -/
def release (b : Switchboard σ ε) (table : Drill.Table) (h : Handle) :
    Except HandleFault (Listener σ ε × Switchboard σ ε) :=
  match table with
  | .subscriber =>
    (b.subscribers.release h).map fun r => (.subscriber r.1, { b with subscribers := r.2 })
  | .storage => (b.storages.release h).map fun r => (.storage r.1, { b with storages := r.2 })
  | .eval => (b.evals.release h).map fun r => (.eval r.1, { b with evals := r.2 })
  | .reply => (b.replies.release h).map fun r => (.reply r.1, { b with replies := r.2 })

/-- The handles of a table that are in use. -/
def handles (b : Switchboard σ ε) : Drill.Table → List Handle
  | .subscriber => b.subscribers.handles
  | .storage => b.storages.handles
  | .eval => b.evals.handles
  | .reply => b.replies.handles

/-- Brings a message to the listener of its handle. -/
def dispatch (b : Switchboard σ ε) (around : σ) : Message → Reaction σ ε
  | .data h sample => b.data around h sample
  | .storageData h sample => b.storageData around h sample
  | .storageQuery h expression optionalPart => b.storageQuery around h expression optionalPart
  | .evalQuery h expression optionalPart => b.evalQuery around h expression optionalPart
  | .reply h event => b.reply around h event

/-- The call to which a message leads, if a listener has the handle. -/
def call? (b : Switchboard σ ε) (around : σ) (message : Message) : Option (Call σ ε) :=
  match message with
  | .data h sample =>
    (b.subscribers.entries.find? h).map fun l => ⟨.subscriber l, message, l around sample⟩
  | .storageData h sample =>
    (b.storages.entries.find? h).map fun l => ⟨.storage l, message, l.data around sample⟩
  | .storageQuery h expression optionalPart =>
    (b.storages.entries.find? h).map fun l =>
      ⟨.storage l, message, l.query around expression optionalPart⟩
  | .evalQuery h expression optionalPart =>
    (b.evals.entries.find? h).map fun l => ⟨.eval l, message, l around expression optionalPart⟩
  | .reply h event =>
    (b.replies.entries.find? h).map fun l => ⟨.reply l, message, l.call around event⟩

/-- The listeners that are left when a call is over: whoever has heard the last event of a query
is given up. -/
def Call.settle (c : Call σ ε) (b : Switchboard σ ε) : Switchboard σ ε :=
  match c.listener, c.message with
  | .reply l, .reply h event => if event.isFinal then (b.settleReply h l.token).2 else b
  | _, _ => b

/-- A message leads to at most one call, and what comes of it is what comes of its script. -/
theorem dispatch_eq (b : Switchboard σ ε) (around : σ) (message : Message) :
    b.dispatch around message =
      match b.call? around message with
      | some c =>
        let r := Reaction.ofScript message.kind b c.script
        { r with board := c.settle r.board }
      | none => .unheard b := by
  cases message with
  | data | storageData | storageQuery | evalQuery =>
    dsimp only [dispatch, call?, data, storageData, storageQuery, evalQuery]
    split
    · next hlookup =>
      rw [HandleTable.find?_of_lookup hlookup]
      rfl
    · next hlookup =>
      rw [HandleTable.find?_of_lookup_error hlookup]
      rfl
  | reply h event =>
    dsimp only [dispatch, call?, reply]
    split
    · next hlookup =>
      rw [HandleTable.find?_of_lookup hlookup]
      dsimp only [Option.map_some, Call.settle]
      -- the last event of a query is the only one that is followed by something
      split
      · rfl
      · rfl
    · next hlookup =>
      rw [HandleTable.find?_of_lookup_error hlookup]
      rfl

theorem message_of_call? {b : Switchboard σ ε} {around : σ} {message : Message} {c : Call σ ε}
    (hc : b.call? around message = some c) : c.message = message := by
  cases message with
  | data | storageData | storageQuery | evalQuery | reply =>
    obtain ⟨l, -, rfl⟩ := Option.map_eq_some_iff.1 hc
    rfl

end Switchboard

/-! ## Runs -/

/-- What a listener does to what is around it. -/
inductive Deed (ν : Type) where
  /-- It leaves a note. -/
  | note (n : ν)
  /-- It gives up a handle. -/
  | release (table : Drill.Table) (h : Handle)

/-- What a listener sees when it is called. -/
structure Sight (ρ ν : Type) where
  /-- The world outside. -/
  around : ρ
  /-- All notes so far, so listeners may remember and may know of each other. -/
  noted : List ν
  /-- The handles in use. -/
  inUse : Drill.Table → List Handle

/-- A switchboard in use, and the notes of its listeners. -/
structure Stage (ρ ν : Type) where
  board : Switchboard (Sight ρ ν) (Deed ν)
  noted : List ν := []

namespace Stage

/-- One step of a run. -/
inductive Step (ρ ν : Type) where
  | register (l : Switchboard.Listener (Sight ρ ν) (Deed ν))
  | release (table : Drill.Table) (h : Handle)
  | dispatch (around : ρ) (message : Switchboard.Message)

/-- What a step returns. -/
inductive Returned (ρ ν : Type) where
  | handle (h : Handle)
  | listener (l : Switchboard.Listener (Sight ρ ν) (Deed ν))
  | fault (f : HandleFault)
  | nothing

/-- What came of a step. -/
structure Result (ρ ν : Type) where
  returned : Returned ρ ν
  call : Option (Switchboard.Call (Sight ρ ν) (Deed ν)) := none
  /-- What became of the sender of a query. -/
  sender : Option RepliesSender := none
  /-- The failures that are counted. -/
  faults : List ListenerKind := []
  after : Stage ρ ν

/-- What a listener sees. -/
def sight (s : Stage ρ ν) (around : ρ) : Sight ρ ν := ⟨around, s.noted, s.board.handles⟩

/-- The stage after a deed. -/
def perform (s : Stage ρ ν) : Deed ν → Stage ρ ν
  | .note n => { s with noted := s.noted ++ [n] }
  | .release table h =>
    match s.board.release table h with
    | .ok (_, board) => { s with board }
    | .error _ => s

/-- Takes a step.  No listener is parked during a call, so the handles that its listener gives
up may go when it is done. -/
def step (s : Stage ρ ν) : Step ρ ν → Result ρ ν
  | .register l =>
    match s.board.register l with
    | .ok (h, board) => { returned := .handle h, after := { s with board } }
    | .error f => { returned := .fault f, after := s }
  | .release table h =>
    match s.board.release table h with
    | .ok (l, board) => { returned := .listener l, after := { s with board } }
    | .error f => { returned := .fault f, after := s }
  | .dispatch around message =>
    let r := s.board.dispatch (s.sight around) message
    { returned := .nothing
      call := s.board.call? (s.sight around) message
      sender := if message.isQuery then some r.sender else none
      faults := r.faults
      after := r.effects.foldl perform { s with board := r.board } }

/-- Takes all steps. -/
def run (s : Stage ρ ν) : List (Step ρ ν) → List (Result ρ ν)
  | [] => []
  | a :: rest => s.step a :: run (s.step a).after rest

/-- What has been counted in the end. -/
def counters (results : List (Result ρ ν)) : Counters :=
  Counters.addAll {} (results.flatMap fun r => r.faults.map .listenerFault)

end Stage

end PathSpace
