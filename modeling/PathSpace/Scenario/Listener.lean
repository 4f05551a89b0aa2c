import PathSpace.Network.Workspace
/-! # Listeners of a scenario

Listeners that note their calls under a name and then do as they are told.
-/

namespace PathSpace.Scenario

/-- What a storage or an eval does when it is asked. -/
inductive SourceConduct where
  /-- It keeps every sample and answers with those that are asked for. -/
  | history
  /-- It always answers with the same samples. -/
  | canned (samples : List Sample)
  /-- It keeps the sender. -/
  | parked
  /-- It does not answer. -/
  | silent
  /-- It fails. -/
  | fault

/-- Notes a sample, and fails if told so. -/
def dataListener (name : String) (faults : Bool) : DataListener Surroundings Effect :=
  fun _ sample => ⟨[.effect (.note name (.data sample))], faults⟩

/-- Notes a query and goes on with a script of its own. -/
def noting (name : String) (rest : Script Effect) : QueryListener Surroundings Effect :=
  fun _ expression optionalPart =>
    { rest with acts := .effect (.note name (.query expression optionalPart)) :: rest.acts }

/-- Answers a query as told; `store` is the number of the history store. -/
def queryListener (name : String) (store : StoreId) :
    SourceConduct → QueryListener Surroundings Effect
  | .history => fun around expression _ =>
    { acts := [.answer (((around.histories.find? store).getD {}).answer expression)] }
  | .canned samples => noting name ⟨[.answer samples], false⟩
  | .parked => noting name ⟨[.retain], false⟩
  | .silent => noting name {}
  | .fault => noting name ⟨[], true⟩

/-- Both halves of a storage; `faults` is about its data. -/
def storageListener (name : String) (store : StoreId) (c : SourceConduct) (faults : Bool) :
    StorageListener Surroundings Effect where
  data :=
    match c with
    | .history => fun _ sample => { acts := [.effect (.record store sample)] }
    | _ => dataListener name faults
  query := queryListener name store c

/-- Notes a reply event, and fails if told so. -/
def replyListener (name : String) (faults : Bool) (_ : Surroundings) (e : ReplyEvent) :
    Script Effect :=
  ⟨[.effect (.note name (.event e))], faults⟩

/-- Notes a batch of changes; fails at one path, and otherwise puts the new values under
another path of the workspace, whose number is `id`. -/
def changeListener (name : String) (id : WorkspaceId) (w : Workspace) (faultAt : Option String)
    (forward : Option Path) (batch : List Change) : Script Effect :=
  let noted := Act.effect (.note name (.changes batch))
  if batch.any fun c => faultAt == some c.path.text then ⟨[noted], true⟩
  else
    let target := forward.bind fun p => (w.absolutePath p).toOption
    let published := target.toList.flatMap fun p =>
      (batch.filterMap (·.value)).map fun v => .effect (.publish id p v)
    ⟨noted :: published, false⟩

/-- What an eval computes. -/
inductive EvalConduct where
  /-- It fails. -/
  | fault
  /-- The properties of the query. -/
  | properties
  /-- Twice the property `n`, or zero. -/
  | double
  /-- The path. -/
  | path
  /-- Always the same value. -/
  | const (v : Value)

/-- The value that an eval computes. -/
def EvalConduct.value? (c : EvalConduct) (p : Path) (props : Properties) : Option Value :=
  match c with
  | .fault => none
  | .properties => some (.properties props)
  | .double =>
    let n := (props.find? "n").bind fun s => (Decimal.readInt64 s).toOption
    some (.int (n.getD 0 * 2))
  | .path => some (.string p.text)
  | .const v => some v

/-- Notes that a value is asked for, and computes it. -/
def evaluate (name : String) (c : EvalConduct) (p : Path) (props : Properties) : Evaluation where
  acts := [.effect (.note name (.eval p props))]
  value := c.value? p props

end PathSpace.Scenario
