import PathSpace.Listening.Script
/-! # Calling listeners

A `Switchboard` holds the four tables of listeners of one session and turns a handle with
an event into a call.  A failing listener is counted and does no further harm; a query
that its listener does not answer is answered with nothing.

The listeners look at their surroundings `σ` and act on them by effects `ε`.  A call
yields a `Reaction`, which says what the listener did.
-/

namespace PathSpace

variable {σ ε : Type}

/-- Hears samples. -/
abbrev DataListener (σ ε : Type) := σ → Sample → Script ε

/-- Is asked for an expression with the optional part of a selector. -/
abbrev QueryListener (σ ε : Type) := σ → (expression optionalPart : String) → Script ε

/-- Both halves of a storage. -/
structure StorageListener (σ ε : Type) where
  data : DataListener σ ε
  query : QueryListener σ ε

/-- Hears the replies to one query. -/
structure ReplyListener (σ ε : Type) where
  /-- Tells this listener from every other one. -/
  token : Nat
  call : σ → ReplyEvent → Script ε

/-- The listeners of one session. -/
structure Switchboard (σ ε : Type) where
  subscribers : HandleTable (DataListener σ ε) := .ofName "subscriber"
  storages : HandleTable (StorageListener σ ε) := .ofName "storage"
  evals : HandleTable (QueryListener σ ε) := .ofName "eval"
  replies : HandleTable (ReplyListener σ ε) := .ofName "reply"

/-- What came of a call. -/
structure Reaction (σ ε : Type) where
  board : Switchboard σ ε
  /-- What the listener did to its surroundings, in order. -/
  effects : List ε := []
  /-- The failures to be counted. -/
  faults : List ListenerKind := []
  /-- What became of the sender that came with a query. -/
  sender : RepliesSender := {}
  /-- Whether the listener kept the sender. -/
  retained : Bool := false

namespace Reaction

/-- Adds one act. -/
def add (r : Reaction σ ε) : Act ε → Reaction σ ε
  | .effect e => { r with effects := r.effects ++ [e] }
  | .answer replies => { r with sender := r.sender.send replies }
  | .retain => { r with retained := true }
  | .release handles =>
    { r with board := { r.board with replies := handles.foldl HandleTable.remove r.board.replies } }
  | .contained kind => { r with faults := r.faults ++ [kind] }

/-- Adds all acts of a script.  A failure is counted; a sender that was not kept is dropped
when the listener is done. -/
def ofScript (kind : ListenerKind) (board : Switchboard σ ε) (s : Script ε) : Reaction σ ε :=
  let r := s.acts.foldl add { board }
  { r with
    faults := if s.faults then r.faults ++ [kind] else r.faults
    sender := if r.retained then r.sender else r.sender.drop }

/-- Nothing was called; a sender answers at once. -/
def unheard (board : Switchboard σ ε) : Reaction σ ε where
  board := board
  sender := RepliesSender.drop {}

end Reaction

namespace Switchboard

/-- Brings a sample to a subscriber. -/
def data (b : Switchboard σ ε) (s : σ) (h : Handle) (sample : Sample) : Reaction σ ε :=
  match b.subscribers.lookup h with
  | .ok listener => .ofScript .subscriber b (listener s sample)
  | .error _ => .unheard b

/-- Brings a sample to a storage. -/
def storageData (b : Switchboard σ ε) (s : σ) (h : Handle) (sample : Sample) : Reaction σ ε :=
  match b.storages.lookup h with
  | .ok listener => .ofScript .storage b (listener.data s sample)
  | .error _ => .unheard b

/-- Asks a storage. -/
def storageQuery (b : Switchboard σ ε) (s : σ) (h : Handle) (expression optionalPart : String) :
    Reaction σ ε :=
  match b.storages.lookup h with
  | .ok listener => .ofScript .storageQuery b (listener.query s expression optionalPart)
  | .error _ => .unheard b

/-- Asks an eval. -/
def evalQuery (b : Switchboard σ ε) (s : σ) (h : Handle) (expression optionalPart : String) :
    Reaction σ ε :=
  match b.evals.lookup h with
  | .ok listener => .ofScript .eval b (listener s expression optionalPart)
  | .error _ => .unheard b

/-- Gives the handle of a query up if `token` still is the listener there. -/
def settleReply (b : Switchboard σ ε) (h : Handle) (token : Nat) : Bool × Switchboard σ ε :=
  let (released, replies) := b.replies.releaseIf h (·.token == token)
  (released.isSome, { b with replies })

/-- Brings a reply to the listener of a query.  After the last event the handle is given up,
unless someone else has it by then. -/
def reply (b : Switchboard σ ε) (s : σ) (h : Handle) (event : ReplyEvent) : Reaction σ ε :=
  match b.replies.lookup h with
  | .ok listener =>
    let r := Reaction.ofScript .reply b (listener.call s event)
    if event.isFinal then { r with board := (r.board.settleReply h listener.token).2 } else r
  | .error _ => .unheard b

/-- The numbers of listeners of each kind. -/
def sizes (b : Switchboard σ ε) : List Nat :=
  [b.subscribers.size, b.storages.size, b.evals.size, b.replies.size]

end Switchboard

end PathSpace
