import PathSpace.Listening.Switchboard
/-! # Drills on a switchboard

A drill registers listeners that behave as told, and dispatches to them.  Every call is
noted with the number of the step that registered the listener, and so is every answer to
a query.
-/

namespace PathSpace.Drill

/-- How a listener behaves once it has noted its call. -/
inductive Conduct where
  /-- It does nothing more. -/
  | log
  /-- It fails. -/
  | fault
  /-- It does not answer. -/
  | drop
  /-- It answers and then fails. -/
  | replyThenFault
  /-- It gives up the first reply handles. -/
  | releaseAll
  deriving DecidableEq, Repr

/-- What is noted. -/
inductive Note where
  | data (listener : Nat) (sample : Sample)
  | query (listener : Nat) (expression optionalPart : String)
  | event (listener : Nat) (e : ReplyEvent)
  | replied (replies : List Sample)

/-- The listeners of a drill; they look at nothing. -/
abbrev Board := Switchboard Unit Note

/-- Notes a sample. -/
def dataListener (id : Nat) (c : Conduct) : DataListener Unit Note := fun _ sample =>
  ⟨[.effect (.data id sample)], c == .fault⟩

/-- Notes a query and answers it, unless the conduct says otherwise. -/
def queryListener (id : Nat) (c : Conduct) (replies : List Sample) : QueryListener Unit Note :=
  fun _ expression optionalPart =>
    let noted := .effect (.query id expression optionalPart)
    match c with
    | .fault => ⟨[noted], true⟩
    | .drop => ⟨[noted], false⟩
    | .replyThenFault => ⟨[noted, .answer replies], true⟩
    | .log | .releaseAll => ⟨[noted, .answer replies], false⟩

/-- Notes a reply event. -/
def replyListener (id : Nat) (c : Conduct) : ReplyListener Unit Note where
  token := id
  call _ e :=
    let noted := .effect (.event id e)
    match c with
    | .releaseAll => ⟨[noted, .release (List.range 16)], false⟩
    | c => ⟨[noted], c == .fault⟩

/-- One of the four tables. -/
inductive Table where
  | subscriber
  | storage
  | eval
  | reply
  deriving DecidableEq, Repr

/-- One step of a drill. -/
inductive Step where
  | register (table : Table) (c : Conduct) (replies : List Sample)
  | release (table : Table) (h : Handle)
  | data (h : Handle) (sample : Sample)
  | storageData (h : Handle) (sample : Sample)
  | storageQuery (h : Handle) (expression optionalPart : String)
  | evalQuery (h : Handle) (expression optionalPart : String)
  | reply (h : Handle) (e : ReplyEvent)

/-- What a step gives. -/
inductive Outcome where
  | handle (h : Handle)
  | fault (f : HandleFault)
  | released (b : Bool)
  | dispatched

/-- What came of a step. -/
structure Result where
  outcome : Outcome
  board : Board
  notes : List Note := []
  faults : List ListenerKind := []

/-- The result of registering in a table. -/
def ofRegister (board : Board) (replace : HandleTable α → Board)
    (r : Except HandleFault (Handle × HandleTable α)) : Result :=
  match r with
  | .ok (h, t) => { outcome := .handle h, board := replace t }
  | .error f => { outcome := .fault f, board }

/-- The result of releasing from a table. -/
def ofRelease (board : Board) (replace : HandleTable α → Board)
    (r : Except HandleFault (α × HandleTable α)) : Result :=
  match r with
  | .ok (_, t) => { outcome := .released true, board := replace t }
  | .error _ => { outcome := .released false, board }

/-- The result of a dispatch. -/
def ofReaction (r : Reaction Unit Note) : Result :=
  { outcome := .dispatched, board := r.board, notes := r.effects, faults := r.faults }

/-- The result of a query; the answers are noted behind the call. -/
def ofAnswer (r : Reaction Unit Note) : Result :=
  { ofReaction r with notes := r.effects ++ r.sender.calls.map .replied }

/-- Takes step number `i`. -/
def step (i : Nat) (b : Board) : Step → Result
  | .register .subscriber c _ =>
    ofRegister b ({ b with subscribers := · }) (b.subscribers.register (dataListener i c))
  | .register .storage c replies =>
    ofRegister b ({ b with storages := · })
      (b.storages.register ⟨dataListener i c, queryListener i c replies⟩)
  | .register .eval c replies =>
    ofRegister b ({ b with evals := · }) (b.evals.register (queryListener i c replies))
  | .register .reply c _ =>
    ofRegister b ({ b with replies := · }) (b.replies.register (replyListener i c))
  | .release .subscriber h => ofRelease b ({ b with subscribers := · }) (b.subscribers.release h)
  | .release .storage h => ofRelease b ({ b with storages := · }) (b.storages.release h)
  | .release .eval h => ofRelease b ({ b with evals := · }) (b.evals.release h)
  | .release .reply h => ofRelease b ({ b with replies := · }) (b.replies.release h)
  | .data h sample => ofReaction (b.data () h sample)
  | .storageData h sample => ofReaction (b.storageData () h sample)
  | .storageQuery h e o => ofAnswer (b.storageQuery () h e o)
  | .evalQuery h e o => ofAnswer (b.evalQuery () h e o)
  | .reply h e => ofReaction (b.reply () h e)

/-- Takes all steps, counting from `i`. -/
def run (i : Nat) (b : Board) : List Step → List Result
  | [] => []
  | s :: rest =>
    let r := step i b s
    r :: run (i + 1) r.board rest

/-- The failures of all steps. -/
def faults (rs : List Result) : Counters :=
  Counters.addAll {} (rs.flatMap fun r => r.faults.map .listenerFault)

end PathSpace.Drill
