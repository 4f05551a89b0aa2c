import PathSpace.Network.Session
import PathSpace.Settings.Basic
/-! # Workspaces

A workspace is a view of the space from a root path.  Relative paths and selectors are
placed under the root.

* `put`, `update` and `remove` write;
* `beginGet` and `concludeGet` ask, and `get` does both with the delivery between them;
* `subscribe` and `registerEval` declare listeners, which the workspace remembers until
  `unsubscribe`, `unregisterEval` or `close`.

An operation that changes what the workspace remembers gives the new workspace.
-/

namespace PathSpace

open Text (Bytes)

/-- A view of the space from a root path. -/
structure Workspace where
  root : Path
  session : SessionId
  settings : WorkspaceSettings := {}
  evals : SortedMap Path Eval := ∅
  subscriptions : SortedMap Handle Subscriber := ∅

/-- What came of computing a value. -/
structure Evaluation where
  acts : List (Act Effect) := []
  /-- The value; the computation failed if there is none. -/
  value : Option Value

namespace Workspace

/-- Where listeners and evals run. -/
def delivery (w : Workspace) : DeliveryMode := w.settings.delivery

/-- A path of the workspace as a path of the space. -/
def absolutePath (w : Workspace) (p : Path) : Except Error Path :=
  if p.isRelative then p.under w.root else .ok p

/-- A selector of the workspace as a selector of the space. -/
def absoluteSelector (w : Workspace) (s : Selector) : Selector :=
  if s.isRelative then s.under w.root else s

/-! ## Writing -/

/-- Writes a payload under a path. -/
def write (w : Workspace) (p : Path) (payload : Bytes) (e : Encoding) (kind : ChangeKind) :
    Action Unit := do
  let p ← (w.absolutePath p : Except Error Path)
  Session.write w.session p payload e kind

/-- Puts a value under a path. -/
def put (w : Workspace) (p : Path) (v : Value) : Action Unit := w.write p v.encode v.encoding .put

/-- Puts a new value under a path. -/
def update (w : Workspace) (p : Path) (v : Value) : Action Unit :=
  w.write p v.encode v.encoding .update

/-- Removes the value under a path. -/
def remove (w : Workspace) (p : Path) : Action Unit := w.write p [] .raw .remove

/-! ## Asking -/

/-- A get whose replies are still expected. -/
structure PendingGet where
  query : PendingQuery
  gathering : GatheringId
  /-- Whether the history of each path is wanted. -/
  series : Bool
  deriving DecidableEq, Repr

/-- Gathers the replies to a query. -/
def gatherListener (id : GatheringId) (policy : MissingTimestamp) (around : Surroundings)
    (event : ReplyEvent) : Script Effect :=
  match event with
  | .storageData sample | .evalData sample =>
    match Data.ofReply around.codecs policy around.wall sample with
    | .ok data => { acts := [.effect (.gather id data)] }
    | .error reason => { acts := [.effect (.drop reason)] }
  | .storageFinal | .evalFinal => {}
  | .replyFinal => { acts := [.effect (.conclude id)] }

/-- Sends the query of a get. -/
def beginGet (w : Workspace) (s : Selector) : Action PendingGet := do
  let s := w.absoluteSelector s
  let id := (← get).nextGathering
  let query ← Session.query w.session s (gatherListener id w.settings.missingTimestamp)
  modify fun n => { n with
    nextGathering := n.nextGathering + 1
    gatherings := n.gatherings.insert id {} }
  return ⟨query, id, s.isForSeries⟩

/-- Gives a get up. -/
def abandonGet (w : Workspace) (g : PendingGet) (n : Network) : Network :=
  let n := (Session.cancelQuery w.session g.query n).2
  { n with gatherings := n.gatherings.erase g.gathering }

/-- The result of a get, or an error if the last reply has not come by now. -/
def concludeGet (w : Workspace) (s : Selector) (g : PendingGet) : Action (List Data) := do
  let n ← get
  match n.gatherings.find? g.gathering with
  | some ⟨aggregator, true⟩ =>
    set { n with gatherings := n.gatherings.erase g.gathering }
    return aggregator.finish g.series
  | _ =>
    set (w.abandonGet g n)
    throw (Error.queryTimeout.withContext "selector" (.string s.text))

/-- Asks for the values that a selector stands for, delivering no more than `limit` jobs
until the answer is there. -/
def get (w : Workspace) (limit : Nat) (s : Selector) : Action (List Data) := do
  let g ← w.beginGet s
  modify (Network.settle limit)
  w.concludeGet s g

/-! ## Listening -/

/-- Tells changes to a listener. -/
def changeListener (delivery : DeliveryMode) (listener : List Change → Script Effect)
    (around : Surroundings) (sample : Sample) : Script Effect :=
  match Change.ofSample around.codecs sample with
  | .ok change => delivery.run .subscriber (listener [change])
  | .error reason => { acts := [.effect (.drop reason)] }

/-- Subscribes to the changes that a selector stands for.  The subscription is known by its
handle. -/
def subscribe (w : Workspace) (s : Selector) (listener : List Change → Script Effect) :
    Action (Handle × Workspace) := do
  let sub ← Session.declareSubscriber w.session (w.absoluteSelector s) .push
    (changeListener w.delivery listener)
  return (sub.handle, { w with subscriptions := w.subscriptions.insert sub.handle sub })

/-- The name of a subscription. -/
def subscriptionText (h : Handle) : String := "sub-" ++ Decimal.natText h

/-- Ends a subscription. -/
def unsubscribe (w : Workspace) (h : Handle) : Action Workspace := do
  match w.subscriptions.find? h with
  | none => throw (.notRegistered "subscription" (subscriptionText h))
  | some sub =>
    Session.undeclareSubscriber w.session sub
    return { w with subscriptions := w.subscriptions.erase h }

/-! ## Computing -/

/-- The properties that come with a query. -/
def queryProperties (expression optionalPart : String) : Properties :=
  if optionalPart.isEmpty then ∅
  else
    -- only together with the expression is the part a selector
    match Selector.parse (expression ++ "?" ++ optionalPart) with
    | .ok s => .parseAssignments s.properties
    | .error _ => ∅

/-- The reply that carries a computed value. -/
def evalReply (p : Path) (v : Value) : Sample :=
  ⟨p.text, v.encode, ⟨none, some v.encoding, some ChangeKind.put.toByte⟩⟩

/-- Computes the value of a path when it is asked for. -/
def evalListener (delivery : DeliveryMode) (p : Path) (eval : Path → Properties → Evaluation)
    (_ : Surroundings) (expression optionalPart : String) : Script Effect :=
  let result := eval p (queryProperties expression optionalPart)
  delivery.run .eval <|
    match result.value with
    | some v => ⟨result.acts ++ [.answer [evalReply p v]], false⟩
    | none => ⟨result.acts, true⟩

/-- An error that a path has an eval already. -/
def evalConflict (p : Path) : Error :=
  { code := .registrationConflict
    userMessage := "An eval is already registered on " ++ p.text : Error
  }.withContext "path" (.string p.text)

/-- Registers an eval for a path. -/
def registerEval (w : Workspace) (p : Path) (eval : Path → Properties → Evaluation) :
    Action Workspace := do
  let p ← (w.absolutePath p : Except Error Path)
  if w.evals.contains p then throw (evalConflict p)
  let declared ← Session.declareEval w.session p (evalListener w.delivery p eval)
  return { w with evals := w.evals.insert p declared }

/-- Ends the eval of a path. -/
def unregisterEval (w : Workspace) (p : Path) : Action Workspace := do
  let p ← (w.absolutePath p : Except Error Path)
  match w.evals.find? p with
  | none => throw (.notRegistered "eval" p.text)
  | some eval =>
    Session.undeclareEval w.session eval
    return { w with evals := w.evals.erase p }

/-- The paths with an eval, in order. -/
def evalPaths (w : Workspace) : List Path := w.evals.keys

/-! ## Closing -/

/-- A workspace being closed, with the first error so far. -/
structure Closing where
  workspace : Workspace
  firstError : Option Error := none

/-- Takes one step of closing; the workspace stays as it was if the step fails. -/
def closeStep (op : Workspace → Action Workspace) (c : Closing) : StateM Network Closing := fun n =>
  match (op c.workspace).run n with
  | (.ok w, n) => ({ c with workspace := w }, n)
  | (.error e, n) => ({ c with firstError := c.firstError <|> some e }, n)

/-- Ends every subscription and every eval.  What cannot be ended stays; the first error is
given. -/
def close (w : Workspace) : StateM Network Closing := do
  let c ← w.subscriptions.keys.foldlM (fun c h => closeStep (·.unsubscribe h) c) { workspace := w }
  w.evalPaths.foldlM (fun c p => closeStep (·.unregisterEval p) c) c

end Workspace

end PathSpace
