import PathSpace.Fault.Code
import PathSpace.Collections.SortedMap
import PathSpace.Json.Record
/-! # Errors

An error carries a code, a message for the caller, perhaps a message for the log,
details, and the wording of the failure behind it.  The constructors below are the
occasions on which errors arise; the later steps (`withContext` and the like) add to
an error without changing its code.
-/

namespace PathSpace

/-- What is known about an error besides its messages. -/
structure ErrorDetails where
  /-- Named values. -/
  context : SortedMap String Json := ∅
  /-- The path or selector concerned. -/
  resource : Option String := none
  /-- The number that the transport gave for its failure. -/
  transportCode : Option Int32 := none
  deriving Inhabited

namespace ErrorDetails

/-- The fields in the order of the array form. -/
def shape : Json.Shape := .record [("context", .any), ("resource", .any), ("transport_code", .any)]

/-- Reads details from a document. -/
def ofJson? (j : Json) : Option ErrorDetails := do
  let s ← Json.slots? false shape j
  return {
    context := ← s.withDefault 0 ∅ fun j => (Json.members? some j).map SortedMap.ofList
    resource := ← s.nullable 1 Json.Reading.strict.text?
    transportCode := ← s.nullable 2 Json.int32? }

/-- Details as a document, without what is empty. -/
def toJson (d : ErrorDetails) : Json :=
  let context := if d.context.isEmpty then [] else [("context", Json.object d.context.toList)]
  let resource := d.resource.toList.map fun r => ("resource", Json.string r)
  let code := d.transportCode.toList.map fun c => ("transport_code", Json.ofInt c.toInt)
  .object (context ++ resource ++ code)

end ErrorDetails

/-- An error that an operation ends with. -/
structure Error where
  code : ErrorCode
  /-- The message for the caller. -/
  userMessage : String
  /-- The message for the log. -/
  internalMessage : Option String := none
  details : ErrorDetails := {}
  /-- The wording of the failure that caused this one. -/
  source : Option String := none
  deriving Inhabited

namespace Error

/-- The code, the message, and the internal message if there is one. -/
def message (e : Error) : String :=
  let shown := "[" ++ e.code.name ++ "] " ++ e.userMessage
  match e.internalMessage with
  | none => shown
  | some internal => shown ++ " (internal: " ++ internal ++ ")"

/-- Whether the transport is to blame. -/
def isTransport (e : Error) : Bool := e.code.category == "transport"

/-! ## Adding to an error -/

/-- Records a named value. -/
def withContext (e : Error) (key : String) (value : Json) : Error :=
  { e with details := { e.details with context := e.details.context.insert key value } }

/-- Replaces the details. -/
def withDetails (e : Error) (details : ErrorDetails) : Error := { e with details }

/-- Replaces the internal message. -/
def withInternalMessage (e : Error) (message : String) : Error :=
  { e with internalMessage := some message }

/-- Replaces the failure behind the error. -/
def withSource (e : Error) (source : String) : Error := { e with source := some source }

/-! ## Occasions -/

/-- A failure of the library itself. -/
def internal (message : String) : Error where
  code := .internalError
  userMessage := "An internal error occurred"
  internalMessage := some message

/-- A text is no path. -/
def invalidPath (path reason : String) (index : Option Nat) : Error :=
  let e : Error := {
    code := .invalidPath
    userMessage := "Invalid path: " ++ path ++ " (" ++ reason ++ ")"
    details := { resource := some path } }
  match index with
  | none => e
  | some i => e.withContext "index" (.ofNat i)

/-- A text is no selector. -/
def invalidSelector (selector reason : String) : Error where
  code := .invalidSelector
  userMessage := "Invalid selector: " ++ selector ++ " (" ++ reason ++ ")"
  details := { resource := some selector }

/-- The session was closed before. -/
def sessionClosed (operation : String) : Error where
  code := .sessionClosed
  userMessage := operation ++ " on a closed session"

/-- A decoder for the encoding is there already. -/
def registrationConflict (encoding : UInt8) : Error :=
  { code := .registrationConflict
    userMessage :=
      "Already registered ValueDecoder for Encoding " ++ Decimal.natText encoding.toNat : Error
  }.withContext "encoding" (.ofNat encoding.toNat)

/-- Nothing of that kind is registered for the resource. -/
def notRegistered (what resource : String) : Error where
  code := .notRegistered
  userMessage := "No " ++ what ++ " registered for " ++ resource
  details := { resource := some resource }

/-- The settings cannot be used. -/
def configuration (message : String) : Error where
  code := .configurationError
  userMessage := message

/-- A text is no JSON document. -/
def unreadableJson (e : Json.ParseError) : Error where
  code := .decodeFailed
  userMessage := "Failed to process JSON data"
  internalMessage := some e.message
  source := some e.message

/-- The settings could not be loaded. -/
def unreadableSettings (reason : String) : Error where
  code := .configurationError
  userMessage := "Failed to load configuration"
  internalMessage := some reason
  source := some reason

/-- The wording of a deadline that passed. -/
def deadlineText : String := "deadline has elapsed"

/-- A query did not end in time. -/
def queryTimeout : Error where
  code := .queryTimeout
  userMessage := "Query did not complete before its deadline"
  source := some deadlineText

/-! ## Errors from failures of others -/

/-- A failure described by the caller's own words. -/
def ofFailure (message source : String) : Error := (internal message).withSource source

/-- A failure under a code of the caller's choice. -/
def ofFailureWithCode (code : ErrorCode) (source : String) : Error where
  code := code
  userMessage := source
  source := some source

/-- Something that should be there is absent. -/
def ofAbsence (message : String) : Error where
  code := .notRegistered
  userMessage := message

/-- Something is absent, under a code of the caller's choice. -/
def ofAbsenceWithCode (code : ErrorCode) : Error where
  code := code
  userMessage := "Resource not found"

end Error

end PathSpace
