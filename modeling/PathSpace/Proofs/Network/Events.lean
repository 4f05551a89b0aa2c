import PathSpace.Network.Storage
import PathSpace.Network.Workspace
import PathSpace.Proofs.Routing.Operations
/-!
# What happens in a network

Beside each function by which a network goes on stands the list of what happens meanwhile:
which writes were accepted, who was declared, whose listener was called with what.  The
lists only watch; the networks in them are those of the functions that they stand beside.

An `Operation` is anything that somebody outside can do to a network.  A run is a list of
operations, and `runLog` is all that happens in it.

## Key results

- `Event`: what happens
- `deliverLog`, `askAllLog`, `absorbLog` and the others: what happens beside a function
- `Operation.run`, `Operation.log`, `runAll`, `runLog`: operations and runs
-/

namespace PathSpace

open Text (Bytes)

/-- Those to whom a write is brought. -/
inductive Audience where
  | subscribers
  | storages
  deriving DecidableEq, Repr

/-- Something that happens. -/
inductive Event where
  /-- The clock of the router was read while the wall showed an instant. -/
  | ticked (clock : Clock) (wall : Instant)
  /-- A write was accepted; the clock was read for it. -/
  | wrote (clock : Clock) (wall : Instant) (sample : Sample)
  /-- A listener was declared. -/
  | declared (a : Audience) (s : SessionId) (h : Handle) (expression : String) (mode : SubMode)
      (listener : DataListener Surroundings Effect)
  /-- A listener was to be declared, and was not. -/
  | refused (a : Audience) (s : SessionId)
  /-- A declaration was taken back. -/
  | undeclared (a : Audience) (s : SessionId) (h : Handle)
  /-- A session was closed. -/
  | closed (s : SessionId)
  /-- A subscriber was sent what waited for it. -/
  | pulled (s : SessionId) (h : Handle)
  /-- A listener was called with a sample, and did this. -/
  | heard (a : Audience) (s : SessionId) (h : Handle) (sample : Sample) (script : Script Effect)
  /-- A sample came to a handle without a listener. -/
  | unheard (a : Audience) (s : SessionId) (h : Handle) (sample : Sample)
  /-- A sample came to a session that was gone. -/
  | missed (a : Audience) (s : SessionId) (h : Handle) (sample : Sample)
  /-- A piece of an answer came to a handle; the token is that of the listener there. -/
  | told (s : SessionId) (h : Handle) (token : Option Nat) (event : ReplyEvent)

namespace Network

/-! ## Calls of listeners -/

/-- What happens when the router accepts a write. -/
def acceptedLog (n : Network) (path : String) (payload : Bytes) (e : Encoding)
    (kind : ChangeKind) : List Event :=
  [.wrote n.router.clock n.around.wall (n.router.stamped n.around.wall path payload e kind)]

/-- What happens when an effect is carried out. -/
def performLog (n : Network) : Effect → List Event
  | .publish workspace path value =>
    match n.workspaces.find? workspace with
    | some s =>
      match ((Router.write s n.around.wall path.text value.encode value.encoding .put).run
          n.router).1 with
      | .ok _ => n.acceptedLog path.text value.encode value.encoding .put
      | .error _ => []
    | none => []
  | _ => []

/-- What happens when effects are carried out one after the other. -/
def effectsLog : Network → List Effect → List Event
  | _, [] => []
  | n, e :: rest => n.performLog e ++ effectsLog (n.perform e) rest

/-- What happens because of a call to a listener. -/
def absorbLog (n : Network) (s : SessionId) (r : Reaction Surroundings Effect) : List Event :=
  (n.setBoard s r.board).effectsLog r.effects

/-! ## Answers -/

/-- Who waits under a handle for the answer to a query. -/
def waiting (n : Network) (s : SessionId) (h : Handle) : Option Nat :=
  ((n.board s).replies.entries.find? h).map (·.token)

/-- What happens when an event is reported to the listener of a query. -/
def reportLog (n : Network) (q : Query) (event : ReplyEvent) : List Event :=
  .told q.querier q.handle (n.waiting q.querier q.handle) event ::
    n.absorbLog q.querier ((n.board q.querier).reply n.around q.handle event)

/-- What happens when a reply is given the timestamp that it lacks. -/
def stampLog (n : Network) (q : Query) (sample : Sample) : List Event :=
  if q.stamping && sample.info.timestamp.isNone then [.ticked n.router.clock n.around.wall] else []

/-- What happens when one reply of a source is reported. -/
def reportReplyLog (q : Query) (kind : SourceKind) (n : Network) (sample : Sample) : List Event :=
  n.stampLog q sample ++
    (n.stampReply q sample).2.reportLog q (kind.dataEvent (n.stampReply q sample).1)

/-- What happens when the replies of a source are reported. -/
def repliesLog (q : Query) (kind : SourceKind) : Network → List Sample → List Event
  | _, [] => []
  | n, reply :: rest =>
    reportReplyLog q kind n reply ++ repliesLog q kind (reportReply q kind n reply) rest

/-- What happens when all that a source has answered is reported. -/
def reportSourceLog (n : Network) (q : Query) (source : Source) (replies : List Sample) :
    List Event :=
  repliesLog q source.kind n replies ++
    (replies.foldl (reportReply q source.kind) n).reportLog q source.kind.finalEvent

/-- What happens when sources are asked in order, until one keeps its sender or all have
answered. -/
def askAllLog (n : Network) (q : Query) : List Source → List Event
  | [] => n.reportLog q .replyFinal
  | source :: rest =>
    let reaction := n.ask q source
    let asked := n.absorb source.session reaction
    n.absorbLog source.session reaction ++
      if reaction.sender.armed then []
      else asked.reportSourceLog q source reaction.sender.replies ++
        askAllLog (asked.reportSource q source reaction.sender.replies) q rest

/-- What happens when the source of a parked query has answered. -/
def resumeLog (n : Network) (p : ParkedQuery) (replies : List Sample) : List Event :=
  n.reportSourceLog p.query p.source replies ++
    (n.reportSource p.query p.source replies).askAllLog p.query p.query.sources

/-! ## Delivery -/

/-- What happens when a sample is brought to a handle. -/
def bringLog (n : Network) (a : Audience) (s : SessionId) (h : Handle) (sample : Sample)
    (listener : Option (DataListener Surroundings Effect))
    (r : Reaction Surroundings Effect) : List Event :=
  if n.isAlive s then
    (match listener with
      | some l => .heard a s h sample (l n.around sample)
      | none => .unheard a s h sample) :: n.absorbLog s r
  else [.missed a s h sample]

/-- What happens when a job is delivered. -/
def deliverLog (n : Network) : Job → List Event
  | .subscriber s h sample =>
    n.bringLog .subscribers s h sample ((n.board s).subscribers.entries.find? h)
      ((n.board s).data n.around h sample)
  | .storage s h sample =>
    n.bringLog .storages s h sample
      (((n.board s).storages.entries.find? h).map StorageListener.data)
      ((n.board s).storageData n.around h sample)
  | .query q => if n.isAlive q.querier then n.askAllLog q q.sources else []

/-- What happens when the first job of the queue is delivered. -/
def deliverNextLog (n : Network) : List Event :=
  match n.router.queue with
  | [] => []
  | job :: rest => { n with router := { n.router with queue := rest } }.deliverLog job

/-- What happens when jobs are delivered, but no more than `limit`. -/
def settleLog : (limit : Nat) → Network → List Event
  | 0, _ => []
  | limit + 1, n =>
    if n.router.queue.isEmpty then [] else n.deliverNextLog ++ settleLog limit n.deliverNext

/-- Uses the sender that is kept for the query at a place among those that are parked. -/
def answerParked (n : Network) (i : Nat) (replies : List Sample) : Network :=
  match n.parked[i]? with
  | some p => { n with parked := n.parked.eraseIdx i }.resume p replies
  | none => n

/-- What happens when a kept sender is used. -/
def answerParkedLog (n : Network) (i : Nat) (replies : List Sample) : List Event :=
  match n.parked[i]? with
  | some p => { n with parked := n.parked.eraseIdx i }.resumeLog p replies
  | none => []

/-- Lets go of all sessions but the given ones; one that is gone does not come back. -/
def letGo (n : Network) (sessions : List SessionId)
    (workspaces : SortedMap WorkspaceId SessionId) : Network :=
  n.keepOnly (sessions.filter fun s => (n.hosts.find? s).any (·.held)) workspaces

end Network

/-! ## Operations -/

/-- Something that is done to a network from outside. -/
inductive Operation where
  | showWall (wall : Instant)
  | failNext (count : Nat) (code : Int32) (name : String)
  | stampReplies (on : Bool)
  | letGo (sessions : List SessionId) (workspaces : SortedMap WorkspaceId SessionId)
  | deliver
  | answerParked (i : Nat) (replies : List Sample)
  | openSession (locator : Option String) (properties : Properties)
  | close (s : SessionId)
  | write (s : SessionId) (path : Path) (payload : Bytes) (e : Encoding) (kind : ChangeKind)
  | declareSubscriber (s : SessionId) (selector : Selector) (mode : SubMode)
      (listener : DataListener Surroundings Effect)
  | undeclareSubscriber (s : SessionId) (sub : Subscriber)
  | pull (s : SessionId) (sub : Subscriber)
  | declareStorage (s : SessionId) (selector : Selector)
      (listener : StorageListener Surroundings Effect)
  | undeclareStorage (s : SessionId) (storage : Storage)
  | declareMemory (s : SessionId) (selector : Selector)
  | declareEval (s : SessionId) (path : Path) (listener : QueryListener Surroundings Effect)
  | undeclareEval (s : SessionId) (eval : Eval)
  | query (s : SessionId) (selector : Selector)
      (listener : Surroundings → ReplyEvent → Script Effect)
  | cancelQuery (s : SessionId) (q : PendingQuery)
  | put (w : Workspace) (p : Path) (v : Value)
  | update (w : Workspace) (p : Path) (v : Value)
  | remove (w : Workspace) (p : Path)
  | get (w : Workspace) (limit : Nat) (selector : Selector)
  | subscribe (w : Workspace) (selector : Selector) (listener : List Change → Script Effect)
  | unsubscribe (w : Workspace) (h : Handle)

namespace Operation

/-- What an operation does. -/
def run : Operation → Network → Network
  | .showWall wall, n => n.changeAround fun a => { a with wall }
  | .failNext count code name, n => { n with router := n.router.failNext count code name }
  | .stampReplies on, n => { n with router := { n.router with stampReplies := on } }
  | .letGo sessions workspaces, n => n.letGo sessions workspaces
  | .deliver, n => n.deliverNext
  | .answerParked i replies, n => n.answerParked i replies
  | .openSession locator properties, n => ((Session.openSession locator properties).run n).2
  | .close s, n => ((Session.close s).run n).2
  | .write s path payload e kind, n => ((Session.write s path payload e kind).run n).2
  | .declareSubscriber s sel mode l, n => ((Session.declareSubscriber s sel mode l).run n).2
  | .undeclareSubscriber s sub, n => ((Session.undeclareSubscriber s sub).run n).2
  | .pull s sub, n => ((Session.pull s sub).run n).2
  | .declareStorage s sel l, n => ((Session.declareStorage s sel l).run n).2
  | .undeclareStorage s storage, n => ((Session.undeclareStorage s storage).run n).2
  | .declareMemory s sel, n => ((MemoryStorage.declare s sel).run n).2
  | .declareEval s path l, n => ((Session.declareEval s path l).run n).2
  | .undeclareEval s eval, n => ((Session.undeclareEval s eval).run n).2
  | .query s sel l, n => ((Session.query s sel l).run n).2
  | .cancelQuery s q, n => (Session.cancelQuery s q n).2
  | .put w p v, n => ((w.put p v).run n).2
  | .update w p v, n => ((w.update p v).run n).2
  | .remove w p, n => ((w.remove p).run n).2
  | .get w limit sel, n => ((w.get limit sel).run n).2
  | .subscribe w sel l, n => ((w.subscribe sel l).run n).2
  | .unsubscribe w h, n => ((w.unsubscribe h).run n).2

/-- What happens when a workspace writes. -/
def writeLog (w : Workspace) (p : Path) (payload : Bytes) (e : Encoding) (kind : ChangeKind)
    (n : Network) : List Event :=
  match w.absolutePath p, ((w.write p payload e kind).run n).1 with
  | .ok p, .ok _ => n.acceptedLog p.text payload e kind
  | _, _ => []

/-- What happens when somebody is to be declared. -/
def declareLog (a : Audience) (s : SessionId) (expression : String) (mode : SubMode)
    (listener : DataListener Surroundings Effect) : Except Error Handle → List Event
  | .ok h => [.declared a s h expression mode listener]
  | .error _ => [.refused a s]

/-- What happens if an operation succeeds. -/
def okLog (events : List Event) : Except Error α → List Event
  | .ok _ => events
  | .error _ => []

/-- What happens during an operation. -/
def log : Operation → Network → List Event
  | .deliver, n => n.deliverNextLog
  | .answerParked i replies, n => n.answerParkedLog i replies
  | .close s, n => okLog [.closed s] ((Session.close s).run n).1
  | .write s path payload e kind, n =>
    okLog (n.acceptedLog path.text payload e kind) ((Session.write s path payload e kind).run n).1
  | .declareSubscriber s sel mode l, n =>
    declareLog .subscribers s sel.path mode l
      (((Session.declareSubscriber s sel mode l).run n).1.map (·.handle))
  | .undeclareSubscriber s sub, n =>
    okLog [.undeclared .subscribers s sub.handle] ((Session.undeclareSubscriber s sub).run n).1
  | .pull s sub, n => okLog [.pulled s sub.handle] ((Session.pull s sub).run n).1
  | .declareStorage s sel l, n =>
    declareLog .storages s sel.path .push l.data
      (((Session.declareStorage s sel l).run n).1.map (·.handle))
  | .undeclareStorage s storage, n =>
    okLog [.undeclared .storages s storage.handle] ((Session.undeclareStorage s storage).run n).1
  | .declareMemory s sel, n =>
    declareLog .storages s sel.path .push (MemoryStorage.listener n.nextStore).data
      (((MemoryStorage.declare s sel).run n).1.map (·.storage.handle))
  | .put w p v, n => writeLog w p v.encode v.encoding .put n
  | .update w p v, n => writeLog w p v.encode v.encoding .update n
  | .remove w p, n => writeLog w p [] .raw .remove n
  | .get w limit sel, n =>
    match (w.beginGet sel).run n with
    | (.ok _, n) => n.settleLog limit
    | (.error _, _) => []
  | .subscribe w sel l, n =>
    declareLog .subscribers w.session (w.absoluteSelector sel).path .push
      (Workspace.changeListener w.delivery l) (((w.subscribe sel l).run n).1.map (·.1))
  | .unsubscribe w h, n =>
    match w.subscriptions.find? h with
    | some sub =>
      okLog [.undeclared .subscribers w.session sub.handle] ((w.unsubscribe h).run n).1
    | none => []
  | .showWall _, _ | .failNext .., _ | .stampReplies _, _ | .letGo .., _ | .openSession .., _
  | .declareEval .., _ | .undeclareEval .., _ | .query .., _ | .cancelQuery .., _ => []

end Operation

namespace Network

/-- Carries operations out one after the other. -/
def runAll : Network → List Operation → Network
  | n, [] => n
  | n, op :: rest => runAll (op.run n) rest

/-- What happens in a run. -/
def runLog : Network → List Operation → List Event
  | _, [] => []
  | n, op :: rest => op.log n ++ runLog (op.run n) rest

theorem runAll_append (n : Network) (ops ops' : List Operation) :
    n.runAll (ops ++ ops') = (n.runAll ops).runAll ops' := by
  induction ops generalizing n with
  | nil => rfl
  | cons op rest ih => exact ih (op.run n)

theorem runLog_append (n : Network) (ops ops' : List Operation) :
    n.runLog (ops ++ ops') = n.runLog ops ++ (n.runAll ops).runLog ops' := by
  induction ops generalizing n with
  | nil => rfl
  | cons op rest ih => simp only [List.cons_append, runLog, runAll, ih, List.append_assoc]

end Network

end PathSpace
