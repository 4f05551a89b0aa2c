import PathSpace.Gathering.Data
import PathSpace.Json.Record
import PathSpace.Listening.Script
import PathSpace.Time.Duration
/-! # Settings

The settings of a client are records with defaults.  Each record is read from a document
by its `ofJson?`; how leniently the leaves are taken is said by a `Json.Reading`.
-/

namespace PathSpace

open Json (Reading Slots)

/-- Where to connect, and as whom. -/
structure SessionSettings where
  locator : Option String := none
  user : Option String := none
  password : Option String := none
  deriving DecidableEq, Repr

/-- How a workspace works. -/
structure WorkspaceSettings where
  /-- Where listeners and evals run. -/
  delivery : DeliveryMode := .inline
  /-- How long to wait for an answer; without it there is no limit. -/
  queryTimeout : Option Duration := none
  missingTimestamp : MissingTimestamp := .synthesize
  deriving DecidableEq, Repr

/-- The form of log lines. -/
inductive LogFormat where
  | json
  | pretty
  | compact
  deriving DecidableEq, Repr

/-- The name of a format. -/
def LogFormat.name : LogFormat → String
  | .json => "json"
  | .pretty => "pretty"
  | .compact => "compact"

/-- The format of that name. -/
def LogFormat.ofName? (s : String) : Option LogFormat :=
  [LogFormat.json, .pretty, .compact].find? (·.name == s)

/-- What counts as sensitive. -/
structure RedactionPattern where
  name : String
  /-- Parts of field names, whatever their case. -/
  fieldNames : List String := []
  /-- A regular expression for sensitive parts of values. -/
  valuePattern : Option String := none
  deriving DecidableEq, Repr

/-- What is masked in log lines, and by what. -/
structure RedactionSettings where
  enabled : Bool := true
  patterns : List RedactionPattern := [
    { name := "passwords", fieldNames := ["password", "passwd", "secret"] },
    { name := "tokens"
      fieldNames := ["token", "authorization"]
      valuePattern := some "eyJ[a-zA-Z0-9_-]+\\.[a-zA-Z0-9_-]+\\.[a-zA-Z0-9_-]+" },
    { name := "locator_credentials", valuePattern := some "[^/@:\\s]+:[^/@\\s]+@" }]
  replacement : String := "[REDACTED]"
  deriving DecidableEq, Repr

/-- What is logged, and how. -/
structure LoggingSettings where
  level : String := "info"
  format : LogFormat := .compact
  moduleLevels : SortedMap String String := ∅
  includeLocation : Bool := false
  includeThread : Bool := true
  redaction : RedactionSettings := {}

/-- The settings of a client. -/
structure ClientSettings where
  session : SessionSettings := {}
  workspace : WorkspaceSettings := {}
  logging : LoggingSettings := {}

namespace SessionSettings

/-- The fields of such settings. -/
def shape : Json.Shape := .record [("locator", .any), ("user", .any), ("password", .any)]

/-- Reads the settings of a session. -/
def ofJson? (r : Reading) (j : Json) : Option SessionSettings := do
  let s ← Json.slots? r.surplus shape j
  return {
    locator := ← s.nullable 0 r.text?
    user := ← s.nullable 1 r.text?
    password := ← s.nullable 2 r.text? }

end SessionSettings

namespace WorkspaceSettings

/-- The fields of such settings. -/
def shape : Json.Shape := .record [
  ("delivery", .any), ("query_timeout", .any), ("missing_timestamp", .any)]

/-- Reads a duration in words. -/
def duration? (r : Reading) (j : Json) : Option Duration := (r.text? j).bind Duration.parse?

/-- Reads the settings of a workspace. -/
def ofJson? (r : Reading) (j : Json) : Option WorkspaceSettings := do
  let s ← Json.slots? r.surplus shape j
  return {
    delivery := ← s.withDefault 0 .inline fun j => (r.name? j).bind DeliveryMode.ofName?
    queryTimeout := ← s.nullableWithDefault 1 (duration? r)
    missingTimestamp := ←
      s.withDefault 2 .synthesize fun j => (r.name? j).bind MissingTimestamp.ofName? }

end WorkspaceSettings

namespace RedactionPattern

/-- The fields of a pattern. -/
def shape : Json.Shape := .record [("name", .any), ("field_names", .any), ("value_pattern", .any)]

/-- Reads a pattern. -/
def ofJson? (r : Reading) (j : Json) : Option RedactionPattern := do
  let s ← Json.slots? r.surplus shape j
  return {
    name := ← s.required 0 r.text?
    fieldNames := ← s.withDefault 1 [] (Json.list? r.text?)
    valuePattern := ← s.nullableWithDefault 2 r.text? }

end RedactionPattern

namespace RedactionSettings

/-- The fields of such settings. -/
def shape : Json.Shape := .record [
  ("enabled", .any), ("patterns", .list RedactionPattern.shape), ("replacement", .any)]

/-- Reads what is masked. -/
def ofJson? (r : Reading) (j : Json) : Option RedactionSettings := do
  let s ← Json.slots? r.surplus shape j
  let standard : RedactionSettings := {}
  return {
    enabled := ← s.withDefault 0 standard.enabled r.flag?
    patterns := ← s.withDefault 1 standard.patterns (Json.list? (RedactionPattern.ofJson? r))
    replacement := ← s.withDefault 2 standard.replacement r.text? }

end RedactionSettings

namespace LoggingSettings

/-- The fields of such settings. -/
def shape : Json.Shape := .record [
  ("level", .any), ("format", .any), ("module_levels", .any), ("include_location", .any),
  ("include_thread", .any), ("redaction", RedactionSettings.shape)]

/-- Reads what is logged. -/
def ofJson? (r : Reading) (j : Json) : Option LoggingSettings := do
  let s ← Json.slots? r.surplus shape j
  let standard : LoggingSettings := {}
  return {
    level := ← s.withDefault 0 standard.level r.text?
    format := ← s.withDefault 1 standard.format fun j => (r.name? j).bind LogFormat.ofName?
    moduleLevels := ←
      s.withDefault 2 ∅ fun j => (Json.members? r.text? j).map SortedMap.ofList
    includeLocation := ← s.withDefault 3 standard.includeLocation r.flag?
    includeThread := ← s.withDefault 4 standard.includeThread r.flag?
    redaction := ← s.withDefault 5 standard.redaction (RedactionSettings.ofJson? r) }

end LoggingSettings

namespace ClientSettings

/-- The fields of such settings. -/
def shape : Json.Shape := .record [
  ("session", SessionSettings.shape), ("workspace", WorkspaceSettings.shape),
  ("logging", LoggingSettings.shape)]

/-- Reads the settings of a client. -/
def ofJson? (r : Reading) (j : Json) : Option ClientSettings := do
  let s ← Json.slots? r.surplus shape j
  return {
    session := ← s.withDefault 0 {} (SessionSettings.ofJson? r)
    workspace := ← s.withDefault 1 {} (WorkspaceSettings.ofJson? r)
    logging := ← s.withDefault 2 {} (LoggingSettings.ofJson? r) }

end ClientSettings

end PathSpace
