import PathSpace.Network.Client
import PathSpace.Network.Storage
import PathSpace.Scenario.Listener
/-! # The steps of a scenario

A scenario acts on one network.  Clients, workspaces, listeners and queries have names;
`Step` is one thing to do and `Outcome` what comes of it.  A *link* is a session used
without any of the checks that sessions make before they ask the router.
-/

namespace PathSpace.Scenario

open Text (Bytes)

/-- Where the settings of a new workspace come from. -/
inductive WorkspaceSource where
  /-- The client. -/
  | client
  /-- The client, but listeners run as units of work of their own. -/
  | detached
  /-- Settings of its own. -/
  | settings (s : WorkspaceSettings)

/-- One of the kinds of listeners of a link. -/
inductive LinkListener where
  | subscriber (faults : Bool)
  | storage (c : SourceConduct) (faults : Bool)
  | eval (c : SourceConduct)
  | reply (faults : Bool)

/-- A declaration of a link. -/
inductive LinkDeclaration where
  | subscriber (mode : SubMode)
  | storage
  | eval

/-- One thing to do. -/
inductive Step where
  | failNext (count : Nat) (code : Int32) (name : String)
  | stampReplies (on : Bool)
  | counts
  | releaseParked (samples : List Sample)
  | login (client : String) (locator : Option String) (properties : Properties)
  | loginWith (client : String) (settings : ClientSettings)
  | logout (client : String)
  | clientState (client : String)
  | write (client path : String) (payload : Bytes) (e : Encoding) (kind : ChangeKind)
  | sessionSub (client name selector : String) (mode : SubMode) (faults : Bool)
  | sessionUnsub (name : String) (client : Option String)
  | pull (name : String) (client : Option String)
  | query (client name selector : String)
  | cancelQuery (name : String)
  | injectData (client : String) (h : Handle) (sample : Sample)
  | injectStorageData (client : String) (h : Handle) (sample : Sample)
  | injectReply (client : String) (h : Handle) (e : ReplyEvent)
  | memoryStorage (client name selector : String)
  | storage (client name selector : String) (c : SourceConduct) (faults : Bool)
  | undeclareStorage (name : String)
  | memoryState (name path : String)
  | workspace (client name root : String) (source : WorkspaceSource)
  | put (workspace path : String) (v : Value)
  | update (workspace path : String) (v : Value)
  | remove (workspace path : String)
  | get (workspace selector : String)
  | getAbandon (workspace selector : String)
  | subscribe (workspace name selector : String) (faultAt forward : Option String)
  | unsubscribe (workspace name : String)
  | registerEval (workspace name path : String) (c : EvalConduct)
  | unregisterEval (workspace path : String)
  | workspaceState (workspace : String)
  | closeWorkspace (workspace : String)
  | linkOpen (link : String) (locator : Option String) (properties : Properties)
  | linkRegister (link name : String) (listener : LinkListener)
  | linkDeclare (link : String) (d : LinkDeclaration) (expression : String) (h : Handle)
  | linkUndeclare (link : String) (d : LinkDeclaration) (h : Handle)
  | linkPull (link : String) (h : Handle)
  | linkWrite (link path : String) (payload : Bytes) (e : Encoding) (kind : ChangeKind)
  | linkQuery (link expression optionalPart : String) (h : Handle)
  | linkClose (link : String)
  | linkState (link : String)
  | linkDrop (link : String)

/-- What comes of a step. -/
inductive Outcome where
  /-- It went well and gives nothing. -/
  | ok
  /-- There is nothing to say. -/
  | none
  | failed (e : Error)
  /-- The router refused a link. -/
  | refused (f : TransportFault)
  /-- No listener could be registered. -/
  | unavailable (f : HandleFault)
  /-- The step names something that is not there. -/
  | unknownName (name : String)
  | number (n : Nat)
  | counts (storages subscribers evals : Nat)
  | loggedIn (info : Properties)
  | linkInfo (info : Properties)
  | state (closed : Bool) (sizes : List Nat)
  | sizes (sizes : List Nat)
  | subscribed (sub : Subscriber)
  | stored (storage : Storage)
  | queried (h : Handle)
  | cancelled (b : Bool)
  | memory (selector : Selector) (size : Nat) (isEmpty : Bool) (value : Option Stored)
  | workspace (root : Path) (mode : DeliveryMode)
  | data (ds : List Data)
  | finished (b : Bool)
  | subscription (h : Handle)
  | workspaceState (evalPaths : List Path) (subscriptions : Nat)

end PathSpace.Scenario
