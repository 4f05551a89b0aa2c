import PathSpace.Proofs.Address.Path
import PathSpace.Proofs.Network.Events
import PathSpace.Proofs.Network.Workspaces
/-!
# A network with the workspaces on it

A `Site` is a network together with what its clients have of it: the workspaces, each known
by its number, and the tokens that were handed out for declarations.  A workspace keeps the
tokens of its subscriptions and evals to itself; the other ones are in the hands of clients.

A `Task` is one call of a client.  It gives an answer, and a call that fails gives no new
workspace and no token.

## Key results

- `Token`, `Offer`, `Chore`: what is declared, through a session or through a workspace
- `Chore.perform_subscribe` and the others: what a workspace asks of its session
- `Site`, `Task.attempt`, `Site.runAll`: calls and runs
- `Site.declarations`: how many calls of a run ask a registry for a handle
-/

namespace PathSpace

/-! ## Registries -/

/-- The registries of a session in which declared listeners are kept. -/
inductive Role where
  | subscriber
  | storage
  | eval
  deriving DecidableEq, Repr

namespace Role

/-- The listeners in a registry. -/
def Listener : Role → Type
  | .subscriber => DataListener Surroundings Effect
  | .storage => StorageListener Surroundings Effect
  | .eval => QueryListener Surroundings Effect

/-- Where a registry is kept. -/
def tray : (role : Role) → Tray role.Listener
  | .subscriber => .subscribers
  | .storage => .storages
  | .eval => .evals

/-- What the router knows to be declared. -/
def declared : Role → Router → List Declaration
  | .subscriber, r => r.subscribers.map (·.toDeclaration)
  | .storage, r => r.storages
  | .eval, r => r.evals

end Role

/-- A registry of a session. -/
def Network.registry (n : Network) (role : Role) (s : SessionId) : HandleTable role.Listener :=
  role.tray.table (n.board s)

/-! ## Tokens -/

/-- What a client gets for a declaration. -/
inductive Token where
  | subscriber (subscriber : Subscriber)
  | storage (storage : Storage)
  | eval (eval : Eval)
  deriving DecidableEq

namespace Token

/-- The registry in which the listener is. -/
def role : Token → Role
  | .subscriber _ => .subscriber
  | .storage _ => .storage
  | .eval _ => .eval

/-- The handle of the listener. -/
def handle : Token → Handle
  | .subscriber sub => sub.handle
  | .storage st => st.handle
  | .eval ev => ev.handle

/-- The selector path or eval path that was declared. -/
def expression : Token → String
  | .subscriber sub => sub.selector.path
  | .storage st => st.selector.path
  | .eval ev => ev.path.text

/-- The declaration that a token of a session stands for. -/
def declaration (t : Token) (s : SessionId) : Declaration := ⟨s, t.handle, t.expression⟩

/-- Takes back, through a session, what a token stands for. -/
def undeclare (s : SessionId) : Token → Action Unit
  | .subscriber sub => Session.undeclareSubscriber s sub
  | .storage st => Session.undeclareStorage s st
  | .eval ev => Session.undeclareEval s ev

end Token

/-- Something that a session can declare. -/
inductive Offer where
  | subscriber (selector : Selector) (mode : SubMode)
      (listener : DataListener Surroundings Effect)
  | storage (selector : Selector) (listener : StorageListener Surroundings Effect)
  | memory (selector : Selector)
  | eval (path : Path) (listener : QueryListener Surroundings Effect)

namespace Offer

/-- The registry in which the listener is parked. -/
def role : Offer → Role
  | .subscriber .. => .subscriber
  | .storage .. | .memory .. => .storage
  | .eval .. => .eval

/-- Declares through a session. -/
def declare (s : SessionId) : Offer → Action Token
  | .subscriber sel mode l => do return .subscriber (← Session.declareSubscriber s sel mode l)
  | .storage sel l => do return .storage (← Session.declareStorage s sel l)
  | .memory sel => do return .storage (← MemoryStorage.declare s sel).storage
  | .eval path l => do return .eval (← Session.declareEval s path l)

end Offer

/-! ## Workspaces -/

namespace Workspace

/-- A workspace keeps a token. -/
def Holds (w : Workspace) : Token → Prop
  | .subscriber sub => w.subscriptions.find? sub.handle = some sub
  | .storage _ => False
  | .eval eval => w.evals.find? eval.path = some eval

/-- The eval under a path of a workspace. -/
def evalAt (w : Workspace) (p : Path) : Option Eval :=
  match w.absolutePath p with
  | .ok path => w.evals.find? path
  | .error _ => none

end Workspace

/-- A call of a workspace that changes what the workspace remembers. -/
inductive Chore where
  | subscribe (selector : Selector) (listener : List Change → Script Effect)
  | unsubscribe (h : Handle)
  | registerEval (path : Path) (eval : Path → Properties → Evaluation)
  | unregisterEval (path : Path)

namespace Chore

/-- Runs a chore; gives the new workspace with the token that it has got. -/
def perform (w : Workspace) : Chore → Action (Workspace × Option Token)
  | .subscribe sel l => do
    let (h, w) ← w.subscribe sel l
    return (w, (w.subscriptions.find? h).map .subscriber)
  | .unsubscribe h => do return (← w.unsubscribe h, none)
  | .registerEval p eval => do
    let w ← w.registerEval p eval
    return (w, (w.evalAt p).map .eval)
  | .unregisterEval p => do return (← w.unregisterEval p, none)

/-- The registry in which a chore parks a listener.  An eval on a path that has one
already gets nowhere near it. -/
def role (w : Workspace) : Chore → Option Role
  | .subscribe .. => some .subscriber
  | .registerEval p _ =>
    match w.absolutePath p with
    | .ok path => if w.evals.contains path then none else some .eval
    | .error _ => none
  | .unsubscribe _ | .unregisterEval _ => none

open PathSpace.Computation

variable (w : Workspace) (n : Network)

/-- To subscribe is to declare a subscriber, and to keep it under its handle. -/
theorem perform_subscribe (sel : Selector) (listener : List Change → Script Effect) :
    ((subscribe sel listener).perform w).run n =
      (((Session.declareSubscriber w.session (w.absoluteSelector sel) .push
          (Workspace.changeListener w.delivery listener)).run n).1.map fun sub =>
            ({ w with subscriptions := w.subscriptions.insert sub.handle sub },
              some (.subscriber sub)),
        ((Session.declareSubscriber w.session (w.absoluteSelector sel) .push
          (Workspace.changeListener w.delivery listener)).run n).2) := by
  rw [perform, run_bind, w.subscribe_run]
  rcases (Session.declareSubscriber w.session (w.absoluteSelector sel) .push
    (Workspace.changeListener w.delivery listener)).run n with ⟨e | sub, m⟩
  · rfl
  · simp [Except.map, run_pure, SortedMap.find?_insert_self]

/-- To end a subscription is to undeclare the subscriber that is kept under its handle. -/
theorem perform_unsubscribe (h : Handle) :
    ((unsubscribe h).perform w).run n =
      match w.subscriptions.find? h with
      | none => (.error (.notRegistered "subscription" (Workspace.subscriptionText h)), n)
      | some sub =>
        (((Session.undeclareSubscriber w.session sub).run n).1.map fun _ =>
            ({ w with subscriptions := w.subscriptions.erase h }, none),
          ((Session.undeclareSubscriber w.session sub).run n).2) := by
  rw [perform, run_bind_pure, w.unsubscribe_run]
  cases w.subscriptions.find? h with
  | none => rfl
  | some sub => simp only [map_map]

/-- To register an eval is to declare it under its absolute path, and to keep it there. -/
theorem perform_registerEval (p : Path) (eval : Path → Properties → Evaluation) :
    ((registerEval p eval).perform w).run n =
      match w.absolutePath p with
      | .error e => (.error e, n)
      | .ok path =>
        if w.evals.contains path then (.error (Workspace.evalConflict path), n)
        else
          (((Session.declareEval w.session path
              (Workspace.evalListener w.delivery path eval)).run n).1.map fun ev =>
                ({ w with evals := w.evals.insert path ev }, some (.eval ev)),
            ((Session.declareEval w.session path
              (Workspace.evalListener w.delivery path eval)).run n).2) := by
  rw [perform, run_bind, w.registerEval_run]
  cases hp : w.absolutePath p with
  | error e => rfl
  | ok path =>
    dsimp only
    by_cases hcontains : w.evals.contains path = true
    · simp only [hcontains, if_true]
    · simp only [hcontains]
      rcases (Session.declareEval w.session path
        (Workspace.evalListener w.delivery path eval)).run n with ⟨e | ev, m⟩
      · rfl
      · -- the workspace finds the eval under the path that it has just declared
        have hroot : ({ w with evals := w.evals.insert path ev } : Workspace).absolutePath p =
            .ok path := hp
        simp [Except.map, run_pure, Workspace.evalAt, hroot, SortedMap.find?_insert_self]

/-- To unregister an eval is to undeclare the one that is kept under its absolute path. -/
theorem perform_unregisterEval (p : Path) :
    ((unregisterEval p).perform w).run n =
      match w.absolutePath p with
      | .error e => (.error e, n)
      | .ok path =>
        match w.evals.find? path with
        | none => (.error (.notRegistered "eval" path.text), n)
        | some ev =>
          (((Session.undeclareEval w.session ev).run n).1.map fun _ =>
              ({ w with evals := w.evals.erase path }, none),
            ((Session.undeclareEval w.session ev).run n).2) := by
  rw [perform, run_bind_pure, w.unregisterEval_run]
  cases w.absolutePath p with
  | error e => rfl
  | ok path =>
    dsimp only
    cases w.evals.find? path with
    | none => rfl
    | some ev => simp only [map_map]

end Chore

/-! ## Tasks -/

/-- A token that was handed out. -/
structure Issue where
  session : SessionId
  token : Token
  /-- The workspace that keeps it; if there is none, the client has it. -/
  workspace : Option Nat
  deriving DecidableEq

/-- A network with its workspaces and tokens. -/
structure Site where
  network : Network
  workspaces : List Workspace := []
  /-- All tokens that were ever handed out, in order. -/
  issued : List Issue := []

/-- Whether an operation declares nothing and takes nothing back. -/
def Operation.isOrdinary : Operation → Bool
  | .declareSubscriber .. | .undeclareSubscriber .. | .declareStorage .. | .undeclareStorage ..
  | .declareMemory .. | .declareEval .. | .undeclareEval .. | .subscribe .. | .unsubscribe .. =>
    false
  | _ => true

/-- What the client is told of an ordinary operation. -/
def Operation.answer : Operation → Network → Except Error Unit
  | .openSession locator properties, n =>
    ((Session.openSession locator properties).run n).1.map fun _ => ()
  | .close s, n => ((Session.close s).run n).1
  | .write s path payload e kind, n => ((Session.write s path payload e kind).run n).1
  | .pull s sub, n => ((Session.pull s sub).run n).1
  | .query s sel l, n => ((Session.query s sel l).run n).1.map fun _ => ()
  | .put w p v, n => ((w.put p v).run n).1
  | .update w p v, n => ((w.update p v).run n).1
  | .remove w p, n => ((w.remove p).run n).1
  | .get w limit sel, n => ((w.get limit sel).run n).1.map fun _ => ()
  | _, _ => .ok ()

/-- A call of a client. -/
inductive Task where
  | operate (op : Operation) (h : op.isOrdinary = true)
  | declare (s : SessionId) (offer : Offer)
  | undeclare (s : SessionId) (token : Token)
  | openWorkspace (root : Path) (s : SessionId) (settings : WorkspaceSettings)
  | work (i : Nat) (chore : Chore)

namespace Site

/-- A site without sessions. -/
def start (wall : Instant) (clock : ClockId) (codecs : CodecTable) : Site where
  network := .start wall clock codecs

/-- Takes over what came of an operation. -/
def take (site : Site) (result : Except Error α × Network) (f : α → Site → Site) :
    Except Error Unit × Site :=
  match result with
  | (.ok a, n) => (.ok (), f a { site with network := n })
  | (.error e, n) => (.error e, { site with network := n })

/-- Hands a token out. -/
def issue (i : Issue) (site : Site) : Site := { site with issued := site.issued ++ [i] }

/-- Replaces a workspace by one that may have got a token. -/
def keep (i : Nat) (w : Workspace) (token : Option Token) (site : Site) : Site :=
  { site with
    workspaces := site.workspaces.set i w
    issued := site.issued ++ (token.map (⟨w.session, ·, some i⟩)).toList }

end Site

namespace Task

/-- What a call does, and what its client is told. -/
def attempt : Task → Site → Except Error Unit × Site
  | .operate op _, site => (op.answer site.network, { site with network := op.run site.network })
  | .declare s offer, site =>
    site.take ((offer.declare s).run site.network) fun token => .issue ⟨s, token, none⟩
  | .undeclare s token, site => site.take ((token.undeclare s).run site.network) fun _ => id
  | .openWorkspace root s settings, site =>
    (.ok (), { site with workspaces := site.workspaces ++ [{ root, session := s, settings }] })
  | .work i chore, site =>
    match site.workspaces[i]? with
    | none => (.ok (), site)
    | some w => site.take ((chore.perform w).run site.network) fun r => .keep i r.1 r.2

/-- What a call does. -/
def run (t : Task) (site : Site) : Site := (t.attempt site).2

/-- A client that declares is issued the token. -/
theorem attempt_declare (s : SessionId) (offer : Offer) (site : Site) :
    (declare s offer).attempt site =
      site.take ((offer.declare s).run site.network) fun token => .issue ⟨s, token, none⟩ := rfl

theorem attempt_undeclare (s : SessionId) (token : Token) (site : Site) :
    (undeclare s token).attempt site =
      site.take ((token.undeclare s).run site.network) fun _ => id := rfl

/-- A workspace that works is kept as the chore has left it. -/
theorem attempt_work (i : Nat) (chore : Chore) {site : Site} {w : Workspace}
    (hw : site.workspaces[i]? = some w) :
    (work i chore).attempt site =
      site.take ((chore.perform w).run site.network) fun r => .keep i r.1 r.2 := by
  simp only [attempt, hw]

/-- Where there is no workspace, nothing is done. -/
theorem attempt_work_missing (i : Nat) (chore : Chore) {site : Site}
    (hw : site.workspaces[i]? = none) : (work i chore).attempt site = (.ok (), site) := by
  simp only [attempt, hw]

/-- The registry that is asked for a handle, if the session is open. -/
def registry (site : Site) : Task → Option (Role × SessionId)
  | .declare s offer => if Session.isClosed site.network s then none else some (offer.role, s)
  | .work i chore =>
    (site.workspaces[i]?).bind fun w =>
      if Session.isClosed site.network w.session then none
      else (chore.role w).map (·, w.session)
  | .operate .. | .undeclare .. | .openWorkspace .. => none

/-- A token is used only by the client that it was handed out to, and only with the session
that it belongs to. -/
def IsProper (site : Site) : Task → Prop
  | .undeclare s token => ⟨s, token, none⟩ ∈ site.issued
  | .operate .. | .declare .. | .openWorkspace .. | .work .. => True

end Task

namespace Site

/-- Carries calls out one after the other. -/
def runAll : Site → List Task → Site
  | site, [] => site
  | site, t :: rest => runAll (t.run site) rest

/-- All calls of a run are proper. -/
def Proper : Site → List Task → Prop
  | _, [] => True
  | site, t :: rest => t.IsProper site ∧ Proper (t.run site) rest

/-- The number of times that a registry is asked for a handle in a run. -/
def declarations (role : Role) (s : SessionId) : Site → List Task → Nat
  | _, [] => 0
  | site, t :: rest =>
    (if t.registry site = some (role, s) then 1 else 0) + declarations role s (t.run site) rest

/-- No task declares more than once. -/
theorem declarations_le_length (role : Role) (s : SessionId) (site : Site) (tasks : List Task) :
    site.declarations role s tasks ≤ tasks.length := by
  induction tasks generalizing site with
  | nil => exact Nat.le_refl 0
  | cons t rest ih =>
    have hrest := ih (t.run site)
    have hfirst : (if t.registry site = some (role, s) then 1 else 0) ≤ 1 := by split <;> omega
    simp only [declarations, List.length_cons]
    omega

end Site

end PathSpace
