/-! # Codes of errors

Every error has a code; the code alone fixes its number, its category and its
severity.
-/

namespace PathSpace

/-- What kind of thing went wrong. -/
inductive ErrorCode where
  | invalidPath
  | invalidSelector
  | invalidProperties
  | transportFailed
  | sessionClosed
  | queryTimeout
  | queryCancelled
  | decodeFailed
  | unknownEncoding
  | missingTimestamp
  | registrationConflict
  | notRegistered
  | listenerFault
  | configurationError
  | internalError
  deriving DecidableEq, Repr, Inhabited

/-- How bad an error is. -/
inductive Severity where
  /-- A mistake of the caller. -/
  | low
  /-- One datum is affected. -/
  | medium
  /-- The transport, a listener or the configuration fails. -/
  | high
  /-- Something that should hold does not. -/
  | critical
  deriving DecidableEq, Repr

namespace ErrorCode

/-- All codes, in the order of their numbers. -/
def all : List ErrorCode :=
  [.invalidPath, .invalidSelector, .invalidProperties, .transportFailed, .sessionClosed,
   .queryTimeout, .queryCancelled, .decodeFailed, .unknownEncoding, .missingTimestamp,
   .registrationConflict, .notRegistered, .listenerFault, .configurationError, .internalError]

/-- The name of a code in a message. -/
def name : ErrorCode → String
  | .invalidPath => "InvalidPath"
  | .invalidSelector => "InvalidSelector"
  | .invalidProperties => "InvalidProperties"
  | .transportFailed => "TransportFailed"
  | .sessionClosed => "SessionClosed"
  | .queryTimeout => "QueryTimeout"
  | .queryCancelled => "QueryCancelled"
  | .decodeFailed => "DecodeFailed"
  | .unknownEncoding => "UnknownEncoding"
  | .missingTimestamp => "MissingTimestamp"
  | .registrationConflict => "RegistrationConflict"
  | .notRegistered => "NotRegistered"
  | .listenerFault => "ListenerFault"
  | .configurationError => "ConfigurationError"
  | .internalError => "InternalError"

/-- The name of a code in a document. -/
def key : ErrorCode → String
  | .invalidPath => "INVALID_PATH"
  | .invalidSelector => "INVALID_SELECTOR"
  | .invalidProperties => "INVALID_PROPERTIES"
  | .transportFailed => "TRANSPORT_FAILED"
  | .sessionClosed => "SESSION_CLOSED"
  | .queryTimeout => "QUERY_TIMEOUT"
  | .queryCancelled => "QUERY_CANCELLED"
  | .decodeFailed => "DECODE_FAILED"
  | .unknownEncoding => "UNKNOWN_ENCODING"
  | .missingTimestamp => "MISSING_TIMESTAMP"
  | .registrationConflict => "REGISTRATION_CONFLICT"
  | .notRegistered => "NOT_REGISTERED"
  | .listenerFault => "LISTENER_FAULT"
  | .configurationError => "CONFIGURATION_ERROR"
  | .internalError => "INTERNAL_ERROR"

/-- The code of that key. -/
def ofKey? (k : String) : Option ErrorCode := all.find? (·.key == k)

/-- The number of a code; its thousands give the category. -/
def number : ErrorCode → Nat
  | .invalidPath => 1000
  | .invalidSelector => 1001
  | .invalidProperties => 1002
  | .transportFailed => 2000
  | .sessionClosed => 2001
  | .queryTimeout => 2002
  | .queryCancelled => 2003
  | .decodeFailed => 3000
  | .unknownEncoding => 3001
  | .missingTimestamp => 3002
  | .registrationConflict => 4000
  | .notRegistered => 4001
  | .listenerFault => 5000
  | .configurationError => 6000
  | .internalError => 9000

/-- The group that a code belongs to. -/
def category (c : ErrorCode) : String :=
  match c.number / 1000 with
  | 1 => "validation"
  | 2 => "transport"
  | 3 => "decode"
  | 4 => "registration"
  | 5 => "listener"
  | 6 => "configuration"
  | 9 => "internal"
  | _ => "unknown"

/-- How bad an error of that code is. -/
def severity : ErrorCode → Severity
  | .invalidPath | .invalidSelector | .invalidProperties | .registrationConflict
  | .notRegistered | .queryCancelled => .low
  | .decodeFailed | .unknownEncoding | .missingTimestamp | .queryTimeout => .medium
  | .transportFailed | .sessionClosed | .listenerFault | .configurationError => .high
  | .internalError => .critical

end ErrorCode

namespace Severity

/-- The name of a severity in a counter. -/
def name : Severity → String
  | .low => "Low"
  | .medium => "Medium"
  | .high => "High"
  | .critical => "Critical"

/-- The name of a severity in a document. -/
def key : Severity → String
  | .low => "low"
  | .medium => "medium"
  | .high => "high"
  | .critical => "critical"

/-- The severity of that key. -/
def ofKey? (k : String) : Option Severity :=
  [Severity.low, .medium, .high, .critical].find? (·.key == k)

end Severity

end PathSpace
