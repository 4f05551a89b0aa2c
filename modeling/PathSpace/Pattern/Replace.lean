import PathSpace.Pattern.Reader
import PathSpace.Pattern.Search
import PathSpace.Pattern.Weight
/-! # Replacing matches

A `Matcher` searches for a pattern, and `Matcher.replaceAll` replaces all matches from left to
right.  In the replacement, `$1`, `$name` and `${name}` stand for what a group has matched, `$0`
for the whole match, and `$$` for a dollar sign.
-/

namespace PathSpace

/-- A part of a replacement. -/
inductive TemplatePart where
  | char (c : Char)
  /-- What the group of that number or name has matched. -/
  | ref (name : String)
  deriving DecidableEq, Repr

namespace TemplatePart

/-- Whether a character may stand in a name without braces. -/
def isNameChar (c : Char) : Bool := c.isAlphanum || c == '_'

/-- The text behind the first closing brace. -/
def afterBrace? (s : List Char) : Option (List Char) :=
  match s.dropWhile (· != '\x7d') with
  | _ :: after => some after
  | [] => none

/-- The first part of a text that begins with a dollar sign, of which `rest` is what follows,
with the text behind that part.  A dollar sign that begins no name stands for itself. -/
def dollar (rest : List Char) : TemplatePart × List Char :=
  match rest with
  | '$' :: after => (.char '$', after)
  | '\x7b' :: inner =>
    match afterBrace? inner with
    | some after => (.ref (String.ofList (inner.takeWhile (· != '\x7d'))), after)
    | none => (.char '$', rest)
  | _ =>
    let name := rest.takeWhile isNameChar
    if name.isEmpty then (.char '$', rest)
    else (.ref (String.ofList name), rest.dropWhile isNameChar)

/-- Reads at most `steps` parts of a replacement. -/
def read : (steps : Nat) → List Char → List TemplatePart
  | 0, _ | _, [] => []
  | steps + 1, c :: rest =>
    if c = '$' then
      let (part, after) := dollar rest
      part :: read steps after
    else .char c :: read steps rest

/-- Reads the parts of a replacement, of which there are no more than characters. -/
def parse (text : List Char) : List TemplatePart := read text.length text

end TemplatePart

/-- A pattern that can be searched for. -/
structure Matcher where
  program : Program
  names : List (String × Nat) := []
  deriving DecidableEq, Repr

namespace Matcher

/-- Reads a pattern; one that takes too much room is refused. -/
def parse? (text : String) : Option Matcher := do
  let p ← Pattern.parse? text
  if p.regex.isBearable then some ⟨.ofRegex p.regex, p.names⟩ else none

/-- The number of a group; a sign may stand before its digits. -/
def groupNumber? (name : String) : Option Nat :=
  match name.toList with
  | '+' :: ds => Decimal.readNat? ds
  | ds => Decimal.readNat? ds

/-- What the group of that number or name has matched behind a place. -/
def group? (m : Matcher) (c : Cursor) (f : Found) (name : String) : Option (List Char) := do
  let i ← (groupNumber? name).or ((m.names.find? (·.1 == name)).map (·.2))
  let (start, stop) ← f.group? i
  return (c.rest.drop (start - c.place)).take (stop - start)

/-- What a part of a replacement stands for, given a match behind a place. -/
def expand (m : Matcher) (c : Cursor) (f : Found) : TemplatePart → List Char
  | .char x => [x]
  | .ref name => (m.group? c f name).getD []

/-- Replaces matches from a place on.  `fresh` says that no match ends at this place; where
one does, an empty match is passed over. -/
def replaceFrom (m : Matcher) (template : List TemplatePart) :
    (steps : Nat) → (fresh : Bool) → Cursor → List Char
  | 0, _, c => c.rest
  | steps + 1, fresh, c =>
    match m.program.search c with
    | none => c.rest
    | some f =>
      if !fresh && f.behind.place == c.place then
        match c.rest with
        | [] => []
        | x :: rest => x :: replaceFrom m template steps true (c.behind x rest)
      else
        c.rest.take (f.start - c.place) ++ template.flatMap (m.expand c f) ++
          replaceFrom m template steps false f.behind

/-- Replaces all matches.  Each of them is replaced in one step, behind which at most one
character is copied in another. -/
def replaceAll (m : Matcher) (replacement text : String) : String :=
  let template := TemplatePart.parse replacement.toList
  String.ofList (m.replaceFrom template (2 * text.toList.length + 2) true { rest := text.toList })

end Matcher

end PathSpace
