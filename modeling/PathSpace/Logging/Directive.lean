import PathSpace.Pattern.Reader
import PathSpace.Settings.Basic
/-! # Directives for log levels

A directive says how much a part of the program logs: `info`, `module=debug`,
`module[span\x7bfield=value\x7d]=trace`.  `Directive.isValid` reads one directive, and
`LoggingSettings.accepted` all directives of some settings.
-/

namespace PathSpace

namespace Directive

/-- The names of the levels. -/
def levelNames : List String := ["error", "warn", "info", "debug", "trace", "off"]

/-- Whether a text is a level: a name in any case, a number up to five, or nothing. -/
def isLevel (s : List Char) : Bool :=
  let digits :=
    match s with
    | '+' :: ds => ds
    | ds => ds
  (Decimal.readNat? digits).any (· ≤ 5) || s.isEmpty ||
    levelNames.contains (String.ofList (s.map Char.toLower))

/-- Whether a text is a number or a truth value. -/
def isPlainValue (s : List Char) : Bool :=
  let text := String.ofList s
  text == "true" || text == "false" || (Decimal.Binary64.read text).toBool

/-- Whether a text is a regular expression that can be stepped through byte by byte, for which
it must not ask for the words beyond ASCII. -/
def isExpression (s : List Char) : Bool :=
  (Pattern.parse? (String.ofList s)).any fun p => !p.regex.asksForWords

/-- Whether a text names a field, perhaps with a value, which may be a regular expression. -/
def isField (s : List Char) : Bool :=
  match s.splitOn '=' with
  | _ :: value :: _ => isPlainValue value || isExpression value
  | _ => true

/-- What is being read, with the place at which it began. -/
inductive Phase where
  | start
  | levelOrTarget
  | span
  | field (first : Nat)
  | fields
  | target
  | level (first : Nat)
  | complete

/-- The characters of a text between two places. -/
def slice (text : List Char) (first last : Nat) : List Char := (text.drop first).take (last - first)

/-- Whether a directive may begin with a character. -/
def mayStart (c : Char) : Bool :=
  ['-', ':', '_'].contains c || Text.isAlphanumeric c

/-- Reads the character at place `i`. -/
def step (text : List Char) (i : Nat) (c : Char) : Phase → Option Phase
  | .start =>
    if c = '[' then some .span else if mayStart c then some .levelOrTarget else none
  | .levelOrTarget =>
    if c = '=' then some (.level (i + 1))
    else if c = '[' then some .span
    else if c = ',' then some .complete
    else some .levelOrTarget
  | .target => if c = '=' then some (.level (i + 1)) else none
  | .span =>
    if c = ']' then some .target else if c = '\x7b' then some (.field (i + 1)) else some .span
  | .field first =>
    if c = '\x7d' ∨ c = ',' then
      let name := slice text first i
      if name.isEmpty || !isField name then none
      else if c = ',' then some (.field (i + 1)) else some .fields
    else some (.field first)
  | .fields => if c = ']' then some .target else none
  | .level first =>
    if c = ',' then if isLevel (slice text first i) then some .complete else none
    else some (.level first)
  | .complete => none

/-- Reads the characters from place `i` on. -/
def walk (text : List Char) (i : Nat) (p : Phase) : List Char → Option Phase
  | [] => some p
  | c :: rest => (step text i c p).bind fun p => walk text (i + 1) p rest

/-- Whether a text is a directive.  Blanks around it are not read, but the places of its
parts are counted without them and looked up with them. -/
def isValid (s : String) : Bool :=
  let text := s.toList
  match walk text 0 .start (Text.trim text) with
  | some .levelOrTarget | some .target | some .complete => true
  | some (.level first) => isLevel (text.drop first)
  | _ => false

end Directive

namespace LoggingSettings

/-- Whether the level, a list of directives, and the levels of all modules make sense. -/
def accepted (s : LoggingSettings) : Bool :=
  ((s.level.toList.splitOn ',').filter (!·.isEmpty)).all
      (fun d => Directive.isValid (String.ofList d)) &&
    s.moduleLevels.toList.all fun (name, level) => Directive.isValid (name ++ "=" ++ level)

end LoggingSettings

end PathSpace
