import PathSpace.Listening.HandleTable
/-! # Failures of the transport -/

namespace PathSpace

/-- Why the transport refuses. -/
inductive TransportFault where
  /-- The session was closed. -/
  | closed
  /-- The transport fails for a reason of its own. -/
  | failed (code : Int32) (name : String)
  /-- The place to connect to makes no sense. -/
  | invalidLocator (locator : String)
  /-- Nothing is declared under the handle. -/
  | unknownDeclaration (handle : Handle)
  deriving DecidableEq, Repr

namespace TransportFault

/-- The wording of a fault. -/
def message : TransportFault → String
  | .closed => "session is closed"
  | .failed code name =>
    "transport failure " ++ name ++ " (code " ++ Decimal.intText code.toInt ++ ")"
  | .invalidLocator locator => "invalid locator: " ++ locator
  | .unknownDeclaration handle => "no declaration for handle " ++ Decimal.natText handle

/-- The name of the kind of fault. -/
def kind : TransportFault → String
  | .closed => "Closed"
  | .failed .. => "Failed"
  | .invalidLocator _ => "InvalidLocator"
  | .unknownDeclaration _ => "UnknownDeclaration"

/-- The number that the transport gave. -/
def code? : TransportFault → Option Int32
  | .failed code _ => some code
  | _ => none

end TransportFault

namespace Error

/-- An error that the transport refused. -/
def ofTransportFault (fault : TransportFault) : Error where
  code :=
    match fault with
    | .closed => .sessionClosed
    | _ => .transportFailed
  userMessage := "Transport operation failed"
  internalMessage := some fault.message
  details := { transportCode := fault.code? }
  source := some fault.message

/-- An error that the transport refused an operation on a resource. -/
def transport (operation resource : String) (fault : TransportFault) : Error :=
  let e := ofTransportFault fault
  { e with
    userMessage := operation ++ " on " ++ resource ++ " failed"
    details := { e.details with resource := some resource } }

end Error

end PathSpace
