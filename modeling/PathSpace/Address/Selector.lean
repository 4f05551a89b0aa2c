import PathSpace.Address.Path
import PathSpace.Address.Properties
/-! # Selectors

A selector is a path expression, which may have wildcards, with three optional parts:
`path?predicate(properties)#fragment`.

* `Selector.parse` reads a selector;
* `Selector.text` writes it, leaving out what is empty;
* `Selector.under` puts it below a path.
-/

namespace PathSpace

namespace Selector

/-- Whether a character may stand in the path expression. -/
def isPathChar (c : Char) : Bool := c ∉ ['[', ']', '?', '#']

/-- Whether a character may stand in the predicate. -/
def isPredicateChar (c : Char) : Bool := c ∉ ['[', ']', '(', ')', '#']

/-- Cuts a text at the last closing parenthesis that either ends it or has a `#` right
behind. -/
def cutProperties : List Char → Option (List Char × List Char)
  | [] => none
  | c :: rest =>
    -- the last parenthesis counts, so the rest is looked at first
    match cutProperties rest with
    | some (properties, tail) => some (c :: properties, tail)
    | none => if c = ')' ∧ (rest = [] ∨ rest.head? = some '#') then some ([], rest) else none

/-- The four parts of a selector; one that is absent is empty. -/
structure Parts where
  path : List Char
  predicate : List Char := []
  properties : List Char := []
  fragment : List Char := []
  deriving DecidableEq

namespace Parts

/-- The fragment as it is written. -/
def fragmentText (p : Parts) : List Char := if p.fragment = [] then [] else '#' :: p.fragment

/-- All that follows the question mark. -/
def optionalText (p : Parts) : List Char :=
  p.predicate ++ (if p.properties = [] then [] else '(' :: p.properties ++ [')']) ++ p.fragmentText

/-- The whole selector as it is written. -/
def text (p : Parts) : List Char :=
  p.path ++ if p.optionalText = [] then [] else '?' :: p.optionalText

/-- The parts can stand together in a selector. -/
structure Grammatical (p : Parts) : Prop where
  path_ne_nil : p.path ≠ []
  path_chars : ∀ c ∈ p.path, isPathChar c
  predicate_chars : ∀ c ∈ p.predicate, isPredicateChar c
  properties_oneLine : '\n' ∉ p.properties
  fragment_oneLine : '\n' ∉ p.fragment
  /-- The properties end at the last parenthesis at which they can end. -/
  properties_longest : p.properties ≠ [] → cutProperties p.fragmentText = none

end Parts

/-! ## Reading -/

/-- Reads the end of a selector, from the fragment's mark on. -/
def fragment? : List Char → Option (List Char)
  | [] => some []
  | '#' :: fragment => if '\n' ∈ fragment then none else some fragment
  | _ => none

/-- Reads what follows the predicate: properties and fragment. -/
def tail? : List Char → Option (List Char × List Char)
  | '(' :: rest => do
    let (properties, tail) ← cutProperties rest
    let fragment ← fragment? tail
    if '\n' ∈ properties then none else some (properties, fragment)
  | text => (fragment? text).map ([], ·)

/-- Reads what follows the path expression: predicate, properties and fragment. -/
def optional? : List Char → Option (List Char × List Char × List Char)
  | '?' :: rest =>
    (tail? (rest.dropWhile isPredicateChar)).map (rest.takeWhile isPredicateChar, ·)
  | text => (fragment? text).map ([], [], ·)

/-- Reads the parts of a selector. -/
def parts? (text : List Char) : Option Parts :=
  let path := text.takeWhile isPathChar
  if path = [] then none
  else
    (optional? (text.dropWhile isPathChar)).map fun (predicate, properties, fragment) =>
      ⟨path, predicate, properties, fragment⟩

/-- A fragment that was read has one line. -/
theorem fragment?_oneLine {text fragment : List Char} (h : fragment? text = some fragment) :
    '\n' ∉ fragment := by
  rw [fragment?.eq_def] at h
  split at h
  · simp_all
  · split at h <;> simp_all
  · cases h

/-- A fragment begins behind a hash. -/
theorem fragment?_cons {c : Char} {text fragment : List Char}
    (h : fragment? (c :: text) = some fragment) : c = '#' ∧ text = fragment := by
  rw [fragment?.eq_def] at h
  split at h
  · simp_all
  · split at h <;> simp_all
  · cases h

/-- Behind the properties there is no parenthesis that could close them. -/
theorem cutProperties_tail {text properties tail : List Char}
    (h : cutProperties text = some (properties, tail)) : cutProperties tail = none := by
  induction text generalizing properties with
  | nil => simp [cutProperties] at h
  | cons c rest ih =>
    rw [cutProperties] at h
    split at h
    · rename_i p t hr
      cases h
      exact ih hr
    · rename_i hr
      split at h
      · cases h
        exact hr
      · cases h

/-- Properties and fragment have one line each, and the properties are as long as they can be. -/
theorem tail?_oneLine {text properties fragment : List Char}
    (h : tail? text = some (properties, fragment)) :
    '\n' ∉ properties ∧ '\n' ∉ fragment ∧
      (properties ≠ [] → cutProperties (if fragment = [] then [] else '#' :: fragment) = none) := by
  rw [tail?.eq_def] at h
  split at h
  · rename_i rest
    simp only [Option.bind_eq_bind, Option.bind_eq_some_iff] at h
    obtain ⟨⟨p, t⟩, hcut, f, hf, h⟩ := h
    split at h
    · cases h
    · rename_i hp
      cases h
      refine ⟨hp, fragment?_oneLine hf, fun _ => ?_⟩
      have ht := cutProperties_tail hcut
      cases t with
      | nil => cases hf; rfl
      | cons c t =>
        obtain ⟨rfl, rfl⟩ := fragment?_cons hf
        split
        · rfl
        · exact ht
  · simp only [Option.map_eq_some_iff] at h
    obtain ⟨f, hf, h⟩ := h
    cases h
    exact ⟨by simp, fragment?_oneLine hf, by simp⟩

/-- What was read behind a path is grammatical. -/
theorem optional?_grammatical {text predicate properties fragment path : List Char}
    (h : optional? text = some (predicate, properties, fragment)) (hne : path ≠ [])
    (hpath : ∀ c ∈ path, isPathChar c) :
    Parts.Grammatical ⟨path, predicate, properties, fragment⟩ := by
  rw [optional?.eq_def] at h
  split at h
  · rename_i rest
    simp only [Option.map_eq_some_iff] at h
    obtain ⟨⟨p, f⟩, ht, h⟩ := h
    cases h
    obtain ⟨hp, hf, hl⟩ := tail?_oneLine ht
    exact ⟨hne, hpath, fun _ hc => Text.of_mem_takeWhile hc, hp, hf, hl⟩
  · simp only [Option.map_eq_some_iff] at h
    obtain ⟨f, hf, h⟩ := h
    cases h
    exact ⟨hne, hpath, by simp, by simp, fragment?_oneLine hf, by simp⟩

/-- What was read is grammatical. -/
theorem parts?_grammatical {text : List Char} {p : Parts} (h : parts? text = some p) :
    p.Grammatical := by
  rw [parts?] at h
  split at h
  · cases h
  · rename_i hne
    simp only [Option.map_eq_some_iff] at h
    obtain ⟨⟨a, b, c⟩, ho, h⟩ := h
    cases h
    exact optional?_grammatical ho hne fun _ hc => Text.of_mem_takeWhile hc

end Selector

/-- A path expression with a predicate, properties and a fragment. -/
structure Selector where
  parts : Selector.Parts
  grammatical : parts.Grammatical

namespace Selector

instance : DecidableEq Selector := fun a b =>
  if h : a.parts = b.parts then
    isTrue (by cases a; cases b; cases h; rfl)
  else
    isFalse fun e => h (e ▸ rfl)

/-- The path expression. -/
def path (s : Selector) : String := String.ofList s.parts.path

/-- The filter in front of the properties. -/
def predicate (s : Selector) : String := String.ofList s.parts.predicate

/-- The text between the parentheses. -/
def properties (s : Selector) : String := String.ofList s.parts.properties

/-- The text behind the `#`. -/
def fragment (s : Selector) : String := String.ofList s.parts.fragment

/-- All that follows the question mark. -/
def optionalPart (s : Selector) : String := String.ofList s.parts.optionalText

/-- The selector as it is written. -/
def text (s : Selector) : String := String.ofList s.parts.text

/-- Reads a selector. -/
def parse (s : String) : Except Error Selector :=
  if s.isEmpty then .error (.invalidSelector s "empty string")
  else
    match h : parts? s.toList with
    | some parts => .ok ⟨parts, parts?_grammatical h⟩
    | none => .error (.invalidSelector s "not matching the selector grammar")

/-- What is allowed in a path is allowed in the path of a selector. -/
theorem isPathChar_of_not_forbidden {c : Char} (h : c ∉ Path.forbidden) : isPathChar c := by
  simp_all [Path.forbidden, isPathChar]

/-- The selector of one path. -/
def ofPath (p : Path) : Selector where
  parts := { path := p.text.toList }
  grammatical :=
    { path_ne_nil := p.nonempty
      path_chars := fun c hc => isPathChar_of_not_forbidden (p.allowed c hc)
      predicate_chars := by simp
      properties_oneLine := by simp
      fragment_oneLine := by simp
      properties_longest := by simp }

/-- The selector whose path expression lies below `root`; the expression becomes canonical. -/
def under (s : Selector) (root : Path) : Selector where
  parts := { s.parts with path := Path.canonical (root.text.toList ++ '/' :: s.parts.path) }
  grammatical :=
    { s.grammatical with
      path_ne_nil := Path.canonical_ne_nil (by simp)
      path_chars := by
        intro c hc
        rcases Path.mem_of_mem_canonical hc with rfl | hc
        · decide
        · rcases List.mem_append.1 hc with hc | hc
          · exact isPathChar_of_not_forbidden (root.allowed c hc)
          · rcases List.mem_cons.1 hc with rfl | hc
            · decide
            · exact s.grammatical.path_chars c hc }

/-- Whether the path expression still has to be placed under a root. -/
def isRelative (s : Selector) : Bool := s.parts.path.head? != some '/'

/-- The properties as a map. -/
def parsedProperties (s : Selector) : Properties := .parse s.properties

/-- The beginnings of property names that ask for a history. -/
def seriesWords : List String := ["starttime", "stoptime"]

/-- Whether a history is asked for, not just the newest value. -/
def isForSeries (s : Selector) : Bool :=
  (s.parts.properties.splitOn ';').any fun piece =>
    seriesWords.any fun word => word.toList.isPrefixOf piece

end Selector

end PathSpace
