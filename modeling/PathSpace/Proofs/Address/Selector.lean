import PathSpace.Address.Selector
import Mathlib.Data.List.Basic
/-!
# The grammar of selectors

A selector is written as a path expression with optional parts behind it.  Properties and
fragment may contain the very characters that set them off, so one text can have several
readings; they differ in where the properties end.  Reading takes the longest properties, and
writing what was read gives a text that is read the same way.

## Key results

- `Form`: a selector as it may be written, with each optional part there or not
- `cutProperties_eq_some_iff`: the properties end at the last place at which they can end
- `parse_iff_form`: reading accepts what a form spells, and takes the form with the longest
  properties
- `Parts.form`: the one form that a selector is written in
- `parse_own_text`: the text of a selector is read as that selector
-/

namespace PathSpace.Selector

/-! ## Forms -/

/-- A selector as it may be written: each optional part is there or is not. -/
structure Form where
  path : List Char
  /-- What follows a question mark: a predicate, perhaps empty, and perhaps properties in
  parentheses. -/
  query : Option (List Char × Option (List Char)) := none
  /-- What follows a `#`. -/
  fragment : Option (List Char) := none

namespace Form

/-- Properties in their parentheses. -/
def propertiesText : Option (List Char) → List Char
  | none => []
  | some properties => '(' :: properties ++ [')']

/-- The question mark and what follows it up to the fragment. -/
def queryText : Option (List Char × Option (List Char)) → List Char
  | none => []
  | some (predicate, properties) => '?' :: predicate ++ propertiesText properties

/-- A fragment behind its mark. -/
def fragmentText : Option (List Char) → List Char
  | none => []
  | some fragment => '#' :: fragment

/-- What is written. -/
def text (f : Form) : List Char := f.path ++ queryText f.query ++ fragmentText f.fragment

/-- The parts of a form; one that is absent is empty. -/
def parts (f : Form) : Parts where
  path := f.path
  predicate := (f.query.map (·.1)).getD []
  properties := (f.query.bind (·.2)).getD []
  fragment := f.fragment.getD []

/-- The characters of each part are allowed there. -/
structure Allowed (f : Form) : Prop where
  path_ne_nil : f.path ≠ []
  path_chars : ∀ c ∈ f.path, c ∉ ['[', ']', '?', '#']
  predicate_chars : ∀ c ∈ f.parts.predicate, c ∉ ['[', ']', '(', ')', '#']
  properties_oneLine : '\n' ∉ f.parts.properties
  fragment_oneLine : '\n' ∉ f.parts.fragment

/-- A form is one way to read a text. -/
structure Spells (f : Form) (s : String) : Prop where
  allowed : f.Allowed
  text_eq : f.text = s.toList

/-- Properties can end at a closing parenthesis with `rest` behind it. -/
def CanClose (rest : List Char) : Prop :=
  rest = [] ∨ ∃ fragment, rest = '#' :: fragment ∧ '\n' ∉ fragment

/-- Of the ways to read a text, the one with the longest properties. -/
structure Reads (f : Form) (s : String) : Prop extends f.Spells s where
  longest : ∀ g : Form, g.Spells s → g.parts.properties.length ≤ f.parts.properties.length
  /-- No parenthesis behind the one that closes the properties could have closed them. -/
  closes_last : ∀ predicate properties, f.query = some (predicate, some properties) →
    ∀ before after, s.toList = before ++ ')' :: after → CanClose after →
      before.length ≤ (f.path ++ '?' :: predicate ++ '(' :: properties).length

end Form

/-! ## Where the properties end -/

/-- Properties may end at a parenthesis only if the text ends there or a fragment begins. -/
def Ends (tail : List Char) : Prop := tail = [] ∨ tail.head? = some '#'

instance (tail : List Char) : Decidable (Ends tail) :=
  inferInstanceAs (Decidable (tail = [] ∨ tail.head? = some '#'))

/-- The properties are cut at the last parenthesis that can close them. -/
private theorem cutProperties_cons (c : Char) (rest : List Char) :
    cutProperties (c :: rest) =
      match cutProperties rest with
      | some (properties, tail) => some (c :: properties, tail)
      | none => if c = ')' ∧ Ends rest then some ([], rest) else none := rfl

/-- The cut is at a place at which the properties can end, and there is none behind it. -/
theorem cutProperties_eq_some_iff {text properties tail : List Char} :
    cutProperties text = some (properties, tail) ↔
      text = properties ++ ')' :: tail ∧ Ends tail ∧ cutProperties tail = none := by
  induction text generalizing properties with
  | nil => simp [cutProperties]
  | cons c rest ih =>
    rw [cutProperties_cons]
    cases hrest : cutProperties rest with
    | some cut =>
      obtain ⟨properties', tail'⟩ := cut
      constructor
      · intro h
        simp only [Option.some.injEq, Prod.mk.injEq] at h
        obtain ⟨rfl, rfl⟩ := h
        obtain ⟨htext, hends, hnone⟩ := ih.1 hrest
        exact ⟨by simp [htext], hends, hnone⟩
      · rintro ⟨htext, hends, hnone⟩
        cases properties with
        | nil =>
          -- there is no cut in `tail`, and `rest` is `tail`
          simp only [List.nil_append, List.cons.injEq] at htext
          rw [htext.2, hnone] at hrest
          cases hrest
        | cons d properties =>
          simp only [List.cons_append, List.cons.injEq] at htext
          have hcut := ih.2 ⟨htext.2, hends, hnone⟩
          rw [hcut] at hrest
          simp_all
    | none =>
      constructor
      · intro h
        have h : (c = ')' ∧ Ends rest) ∧ properties = [] ∧ rest = tail := by simpa using h
        obtain ⟨⟨rfl, hends⟩, rfl, rfl⟩ := h
        exact ⟨rfl, hends, hrest⟩
      · rintro ⟨htext, hends, hnone⟩
        cases properties with
        | nil => simp_all
        | cons d properties =>
          simp only [List.cons_append, List.cons.injEq] at htext
          have hcut := ih.2 ⟨htext.2, hends, hnone⟩
          rw [hcut] at hrest
          cases hrest

/-- If the properties can end somewhere, there is a cut, and it is not before that place. -/
private theorem exists_cutProperties (properties : List Char) {tail : List Char}
    (hends : Ends tail) :
    ∃ properties' tail', cutProperties (properties ++ ')' :: tail) = some (properties', tail') ∧
      properties.length ≤ properties'.length := by
  induction properties with
  | nil =>
    rw [List.nil_append, cutProperties_cons]
    cases cutProperties tail with
    | some cut => exact ⟨_, _, rfl, by simp⟩
    | none => exact ⟨[], tail, by simp [hends], by simp⟩
  | cons c rest ih =>
    obtain ⟨properties', tail', hcut, hlen⟩ := ih
    refine ⟨c :: properties', tail', ?_, by simpa using hlen⟩
    rw [List.cons_append, cutProperties_cons, hcut]

/-! ## Reading what was written -/

/-- The rest of a text begins with a character that does not belong to the part before it. -/
def Stops (p : Char → Bool) (rest : List Char) : Prop := ∀ c, rest.head? = some c → p c = false

/-- A part that is followed by what cannot belong to it is taken whole. -/
private theorem takeWhile_of_stops {p : Char → Bool} {part rest : List Char}
    (hpart : ∀ c ∈ part, p c)
    (hrest : Stops p rest) : (part ++ rest).takeWhile p = part := by
  rw [List.takeWhile_append_of_pos hpart]
  cases rest with
  | nil => simp
  | cons c rest => simp [hrest c rfl]

/-- What follows a part is left when the part has been dropped. -/
private theorem dropWhile_of_stops {p : Char → Bool} {part rest : List Char}
    (hpart : ∀ c ∈ part, p c)
    (hrest : Stops p rest) : (part ++ rest).dropWhile p = rest := by
  rw [List.dropWhile_append_of_pos hpart]
  cases rest with
  | nil => simp
  | cons c rest => simp [hrest c rfl]

/-- A fragment is one line behind a hash, or nothing. -/
private theorem fragment?_eq_some_iff {text fragment : List Char} :
    fragment? text = some fragment ↔
      '\n' ∉ fragment ∧ (text = '#' :: fragment ∨ text = [] ∧ fragment = []) := by
  constructor
  · intro h
    refine ⟨fragment?_oneLine h, ?_⟩
    cases text with
    | nil => simp_all [fragment?]
    | cons c rest =>
      obtain ⟨rfl, rfl⟩ := fragment?_cons h
      exact .inl rfl
  · rintro ⟨hline, rfl | ⟨rfl, rfl⟩⟩
    · simp [fragment?, hline]
    · rfl

/-- Where the properties can end, a fragment can be read, if it is one line. -/
private theorem exists_fragment?_of_ends {tail : List Char} (hends : Ends tail)
    (hline : '\n' ∉ tail) :
    ∃ fragment, fragment? tail = some fragment := by
  cases tail with
  | nil => exact ⟨[], rfl⟩
  | cons c fragment =>
    obtain rfl : c = '#' := by simpa [Ends] using hends
    exact ⟨fragment, fragment?_eq_some_iff.2 ⟨by simp_all, .inl rfl⟩⟩

/-- In front of a fragment nothing but properties can stand. -/
private theorem tail?_of_fragment? {text fragment : List Char}
    (h : fragment? text = some fragment) :
    tail? text = some ([], fragment) := by
  rcases (fragment?_eq_some_iff.1 h).2 with rfl | ⟨rfl, rfl⟩
  · simp [tail?, h]
  · rfl

/-- Properties that have been cut off are read together with the fragment behind them. -/
private theorem tail?_of_cutProperties {text properties tail fragment : List Char}
    (hcut : cutProperties text = some (properties, tail)) (hline : '\n' ∉ properties)
    (hfragment : fragment? tail = some fragment) :
    tail? ('(' :: text) = some (properties, fragment) := by
  simp [tail?, hcut, hfragment, hline]

/-- A text that is only a fragment has neither predicate nor properties. -/
private theorem optional?_of_fragment? {text fragment : List Char}
    (h : fragment? text = some fragment) :
    optional? text = some ([], [], fragment) := by
  rcases (fragment?_eq_some_iff.1 h).2 with rfl | ⟨rfl, rfl⟩
  · simp [optional?, h]
  · rfl

/-- Behind a question mark the predicate is read up to where it stops. -/
private theorem optional?_append {predicate rest : List Char}
    (hpredicate : ∀ c ∈ predicate, isPredicateChar c) (hrest : Stops isPredicateChar rest) :
    optional? ('?' :: (predicate ++ rest)) = (tail? rest).map (predicate, ·) := by
  rw [optional?, takeWhile_of_stops hpredicate hrest, dropWhile_of_stops hpredicate hrest]

/-- The path is read up to where it stops. -/
private theorem parts?_append {path rest : List Char} (hne : path ≠ [])
    (hpath : ∀ c ∈ path, isPathChar c)
    (hrest : Stops isPathChar rest) :
    parts? (path ++ rest) =
      (optional? rest).map fun (predicate, properties, fragment) =>
        ⟨path, predicate, properties, fragment⟩ := by
  rw [parts?, takeWhile_of_stops hpath hrest, dropWhile_of_stops hpath hrest]
  simp [hne]

/-! ## Reading and forms -/

namespace Form

/-- A fragment that was written is read again. -/
private theorem fragment?_fragmentText {fragment : Option (List Char)}
    (h : '\n' ∉ fragment.getD []) :
    fragment? (fragmentText fragment) = some (fragment.getD []) := by
  rw [fragment?_eq_some_iff]
  refine ⟨h, ?_⟩
  cases fragment with
  | none => exact .inr ⟨rfl, rfl⟩
  | some x => exact .inl rfl

/-- Properties can end before a fragment, and before nothing. -/
private theorem ends_fragmentText (fragment : Option (List Char)) :
    Ends (fragmentText fragment) := by
  cases fragment <;> simp [Ends, fragmentText]

/-- Every fragment that is read was written in some form. -/
private theorem exists_of_fragment? {text x : List Char} (h : fragment? text = some x) :
    ∃ fragment, text = fragmentText fragment ∧ fragment.getD [] = x := by
  rcases (fragment?_eq_some_iff.1 h).2 with rfl | ⟨rfl, rfl⟩
  · exact ⟨some x, rfl, rfl⟩
  · exact ⟨none, rfl, rfl⟩

/-- Every tail that is read was written in some form. -/
private theorem exists_of_tail? {text p x : List Char} (h : tail? text = some (p, x)) :
    ∃ properties fragment, text = propertiesText properties ++ fragmentText fragment ∧
      properties.getD [] = p ∧ fragment.getD [] = x := by
  -- with a parenthesis in front there are properties, else only a fragment
  rw [tail?.eq_def] at h
  split at h
  · next rest =>
    simp only [Option.bind_eq_bind, Option.bind_eq_some_iff] at h
    obtain ⟨⟨p', tail⟩, hcut, x', hx', h⟩ := h
    split at h
    · cases h
    · simp only [Option.some.injEq, Prod.mk.injEq] at h
      obtain ⟨rfl, rfl⟩ := h
      obtain ⟨fragment, rfl, hget⟩ := exists_of_fragment? hx'
      have hrest := (cutProperties_eq_some_iff.1 hcut).1
      exact ⟨some p', fragment, by simp [propertiesText, hrest], rfl, hget⟩
  · simp only [Option.map_eq_some_iff, Prod.mk.injEq] at h
    obtain ⟨x', hx', rfl, rfl⟩ := h
    obtain ⟨fragment, rfl, hget⟩ := exists_of_fragment? hx'
    exact ⟨none, fragment, rfl, rfl, hget⟩

/-- What is read has a form. -/
private theorem exists_of_parts? {text : List Char} {p : Parts} (h : parts? text = some p) :
    ∃ f : Form, f.text = text ∧ f.parts = p := by
  have hsplit := List.takeWhile_append_dropWhile (p := isPathChar) (l := text)
  rw [parts?] at h
  split at h
  · cases h
  · simp only [Option.map_eq_some_iff] at h
    obtain ⟨⟨predicate, properties, x⟩, hoptional, rfl⟩ := h
    rw [optional?.eq_def] at hoptional
    split at hoptional
    · next rest hrest =>
      simp only [Option.map_eq_some_iff, Prod.mk.injEq] at hoptional
      obtain ⟨⟨_, _⟩, htail, rfl, rfl, rfl⟩ := hoptional
      obtain ⟨properties, fragment, heq, rfl, rfl⟩ := exists_of_tail? htail
      have hquery := List.takeWhile_append_dropWhile (p := isPredicateChar) (l := rest)
      refine ⟨⟨text.takeWhile isPathChar, some (rest.takeWhile isPredicateChar, properties),
        fragment⟩, ?_, rfl⟩
      -- what was cut off at each sign, put together again, is the text
      calc _ = text.takeWhile isPathChar ++ '?' :: (rest.takeWhile isPredicateChar ++
            (propertiesText properties ++ fragmentText fragment)) := by simp [Form.text, queryText]
        _ = text.takeWhile isPathChar ++ '?' :: rest := by rw [← heq, hquery]
        _ = text := by rw [← hrest, hsplit]
    · next rest =>
      simp only [Option.map_eq_some_iff, Prod.mk.injEq] at hoptional
      obtain ⟨x', hx', rfl, rfl, rfl⟩ := hoptional
      obtain ⟨fragment, heq, rfl⟩ := exists_of_fragment? hx'
      refine ⟨⟨text.takeWhile isPathChar, none, fragment⟩, ?_, rfl⟩
      calc _ = text.takeWhile isPathChar ++ fragmentText fragment := by simp [Form.text, queryText]
        _ = text := by rw [← heq, hsplit]

/-- A form is allowed when its parts are grammatical. -/
private theorem allowed_of_grammatical {f : Form} (h : f.parts.Grammatical) : f.Allowed where
  path_ne_nil := h.path_ne_nil
  path_chars c hc := by simpa [isPathChar] using h.path_chars c hc
  predicate_chars c hc := by simpa [isPredicateChar] using h.predicate_chars c hc
  properties_oneLine := h.properties_oneLine
  fragment_oneLine := h.fragment_oneLine

/-- A fragment of one line is written in one line. -/
private theorem newline_not_mem_fragmentText {fragment : Option (List Char)}
    (h : '\n' ∉ fragment.getD []) : '\n' ∉ fragmentText fragment := by
  cases fragment with
  | none => simp [fragmentText]
  | some x => simpa [fragmentText] using h

/-- The path stops at a question mark, at a hash, and at the end. -/
private theorem stops_path (query : Option (List Char × Option (List Char)))
    (fragment : Option (List Char)) :
    Stops isPathChar (queryText query ++ fragmentText fragment) := by
  cases query <;> cases fragment <;> simp [Stops, queryText, fragmentText, isPathChar]

/-- The predicate stops at a parenthesis, at a hash, and at the end. -/
private theorem stops_predicate (properties fragment : Option (List Char)) :
    Stops isPredicateChar (propertiesText properties ++ fragmentText fragment) := by
  cases properties <;> cases fragment <;>
    simp [Stops, propertiesText, fragmentText, isPredicateChar]

/-- A form is read up to the end of its predicate, whatever may follow. -/
private theorem parts?_text {f : Form} (hf : f.Allowed) :
    parts? f.text =
      match f.query with
      | none => some ⟨f.path, [], [], f.fragment.getD []⟩
      | some (predicate, properties) =>
        (tail? (propertiesText properties ++ fragmentText f.fragment)).map
          fun (properties, fragment) => ⟨f.path, predicate, properties, fragment⟩ := by
  obtain ⟨path, query, fragment⟩ := f
  have hpath : ∀ c ∈ path, isPathChar c := fun c hc => by
    simpa [isPathChar] using hf.path_chars c hc
  have htext : Form.text ⟨path, query, fragment⟩ =
      path ++ (queryText query ++ fragmentText fragment) := by simp [Form.text]
  -- first the path, then, if there is a question mark, the predicate
  rw [htext, parts?_append hf.path_ne_nil hpath (stops_path query fragment)]
  cases query with
  | none =>
    have hfragment := fragment?_fragmentText hf.fragment_oneLine
    rw [queryText, List.nil_append, optional?_of_fragment? hfragment]
    rfl
  | some query =>
    obtain ⟨predicate, properties⟩ := query
    have hpredicate : ∀ c ∈ predicate, isPredicateChar c := fun c hc => by
      simpa [isPredicateChar] using hf.predicate_chars c hc
    have hquery : queryText (some (predicate, properties)) ++ fragmentText fragment =
        '?' :: (predicate ++ (propertiesText properties ++ fragmentText fragment)) := by
      simp [queryText]
    rw [hquery, optional?_append hpredicate (stops_predicate properties fragment), Option.map_map]
    rfl

/-- Without properties only the fragment is read. -/
private theorem tail?_of_no_properties {fragment : Option (List Char)}
    (h : '\n' ∉ fragment.getD []) :
    tail? (propertiesText none ++ fragmentText fragment) = some ([], fragment.getD []) :=
  tail?_of_fragment? (fragment?_fragmentText h)

/-- With properties, what is cut off and the fragment behind it are read. -/
private theorem tail?_of_properties {properties properties' tail : List Char}
    {fragment : Option (List Char)} {x : List Char}
    (hcut : cutProperties (properties ++ ')' :: fragmentText fragment) = some (properties', tail))
    (hline : '\n' ∉ properties') (hx : fragment? tail = some x) :
    tail? (propertiesText (some properties) ++ fragmentText fragment) = some (properties', x) := by
  have hparens : propertiesText (some properties) ++ fragmentText fragment =
      '(' :: (properties ++ ')' :: fragmentText fragment) := by simp [propertiesText]
  rw [hparens]
  exact tail?_of_cutProperties hcut hline hx

/-- Whatever a form spells is read, with properties that are at least as long. -/
private theorem exists_parts? {f : Form} (hf : f.Allowed) :
    ∃ p, parts? f.text = some p ∧ f.parts.properties.length ≤ p.properties.length := by
  rw [parts?_text hf]
  obtain ⟨path, query, fragment⟩ := f
  cases query with
  | none => exact ⟨_, rfl, Nat.zero_le _⟩
  | some query =>
    obtain ⟨predicate, properties⟩ := query
    dsimp only
    cases properties with
    | none =>
      rw [tail?_of_no_properties hf.fragment_oneLine]
      exact ⟨_, rfl, Nat.zero_le _⟩
    | some properties =>
      obtain ⟨properties', tail, hcut, hlen⟩ :=
        exists_cutProperties properties (ends_fragmentText fragment)
      obtain ⟨heq, hends, -⟩ := cutProperties_eq_some_iff.1 hcut
      -- neither what is cut off nor the rest can have a new line, as the whole has none
      have hline : '\n' ∉ properties ++ ')' :: fragmentText fragment := by
        have hproperties : '\n' ∉ properties := hf.properties_oneLine
        have hfragmentText := newline_not_mem_fragmentText hf.fragment_oneLine
        simp only [List.mem_append, List.mem_cons, not_or]
        exact ⟨hproperties, by decide, hfragmentText⟩
      rw [heq] at hline
      simp only [List.mem_append, List.mem_cons, not_or] at hline
      obtain ⟨x, hx⟩ := exists_fragment?_of_ends hends hline.2.2
      rw [tail?_of_properties hcut hline.1 hx]
      exact ⟨_, rfl, hlen⟩

/-- A parenthesis can close the properties if nothing but a fragment follows. -/
private theorem exists_of_canClose {rest : List Char} (h : CanClose rest) :
    ∃ fragment, rest = fragmentText fragment ∧ '\n' ∉ fragment.getD [] := by
  rcases h with rfl | ⟨x, rfl, hx⟩
  · exact ⟨none, rfl, by simp⟩
  · exact ⟨some x, rfl, hx⟩

/-- If properties could end further behind, there would be longer ones. -/
private theorem closes_last_of_longest {f : Form} {s : String} (hf : f.Spells s)
    (hlongest : ∀ g : Form, g.Spells s → g.parts.properties.length ≤ f.parts.properties.length)
    (predicate properties : List Char) (hquery : f.query = some (predicate, some properties))
    (before after : List Char) (hs : s.toList = before ++ ')' :: after) (hafter : CanClose after) :
    before.length ≤ (f.path ++ '?' :: predicate ++ '(' :: properties).length := by
  obtain ⟨path, query, fragment⟩ := f
  subst hquery
  have htext : (path ++ '?' :: predicate ++ '(' :: properties) ++ ')' :: fragmentText fragment =
      before ++ ')' :: after := by
    rw [← hs, ← hf.text_eq]
    simp [Form.text, queryText, propertiesText]
  rcases List.append_eq_append_iff.1 htext with ⟨gap, hbefore, hrest⟩ | ⟨gap, hfront, -⟩
  · cases gap with
    | nil => simp [hbefore]
    | cons c gap =>
      -- the fragment has a parenthesis in it, up to which the properties could have gone on
      exfalso
      simp only [List.cons_append, List.cons.injEq] at hrest
      obtain ⟨rfl, hrest⟩ := hrest
      obtain ⟨fragment', rfl, hline'⟩ := exists_of_canClose hafter
      have hgap : '\n' ∉ gap := by
        have hline := newline_not_mem_fragmentText hf.allowed.fragment_oneLine
        simp_all
      have hproperties : '\n' ∉ properties := hf.allowed.properties_oneLine
      let g : Form := ⟨path, some (predicate, some (properties ++ ')' :: gap)), fragment'⟩
      have hg : g.Spells s := by
        refine ⟨⟨hf.allowed.path_ne_nil, hf.allowed.path_chars, hf.allowed.predicate_chars, ?_,
          hline'⟩, ?_⟩
        · simp [g, Form.parts, hproperties, hgap]
        · rw [hs, hbefore]
          simp [g, Form.text, queryText, propertiesText]
      have hlen : (properties ++ ')' :: gap).length ≤ properties.length := hlongest g hg
      rw [List.length_append, List.length_cons] at hlen
      omega
  · rw [hfront]
    simp

end Form

/-! ## Reading -/

/-- A text is accepted exactly if it has the parts of the selector. -/
theorem parse_eq_ok_iff {s : String} {sel : Selector} :
    parse s = .ok sel ↔ parts? s.toList = some sel.parts := by
  by_cases hs : s = ""
  · subst hs
    simp [parse, parts?]
  · have hne : ¬ s.isEmpty = true := by simpa using hs
    rw [parse, if_neg hne]
    split
    · next parts hparts =>
      constructor
      · intro h
        rw [hparts, ← Except.ok.inj h]
      · intro h
        obtain rfl : parts = sel.parts := Option.some.inj (hparts.symm.trans h)
        rfl
    · next hparts => simp [hparts]

/-- A text without parts is refused, and the error says whether it was empty. -/
private theorem parse_of_parts?_eq_none {s : String} (h : parts? s.toList = none) :
    parse s = .error (.invalidSelector s
      (if s = "" then "empty string" else "not matching the selector grammar")) := by
  by_cases hs : s = ""
  · simp [parse, hs]
  · have hne : ¬ s.isEmpty = true := by simpa using hs
    rw [parse, if_neg hne, if_neg hs]
    split
    · simp_all
    · rfl

/-- Reading accepts a text if some form spells it, and takes the form with the longest
properties; they end at the last parenthesis at which they can.  Every other text is refused. -/
theorem parse_iff_form (s : String) :
    ((∃ sel, parse s = .ok sel) ↔ ∃ f : Form, f.Spells s) ∧
      (∀ sel, parse s = .ok sel → ∃ f : Form, f.Reads s ∧ f.parts = sel.parts) ∧
      ((¬ ∃ f : Form, f.Spells s) →
        parse s = .error (.invalidSelector s
          (if s = "" then "empty string" else "not matching the selector grammar"))) := by
  have hsound : ∀ sel, parse s = .ok sel → ∃ f : Form, f.Spells s ∧ f.parts = sel.parts := by
    intro sel h
    obtain ⟨f, htext, hparts⟩ := Form.exists_of_parts? (parse_eq_ok_iff.1 h)
    have hgrammatical : f.parts.Grammatical := hparts ▸ sel.grammatical
    exact ⟨f, ⟨Form.allowed_of_grammatical hgrammatical, htext⟩, hparts⟩
  have hcomplete : ∀ f : Form, f.Spells s → ∃ p, parts? s.toList = some p ∧
      f.parts.properties.length ≤ p.properties.length := by
    intro f hf
    rw [← hf.text_eq]
    exact Form.exists_parts? hf.allowed
  refine ⟨⟨fun ⟨sel, h⟩ => ?_, fun ⟨f, hf⟩ => ?_⟩, fun sel h => ?_, fun hnone => ?_⟩
  · obtain ⟨f, hf, -⟩ := hsound sel h
    exact ⟨f, hf⟩
  · obtain ⟨p, hp, -⟩ := hcomplete f hf
    exact ⟨⟨p, parts?_grammatical hp⟩, parse_eq_ok_iff.2 hp⟩
  · obtain ⟨f, hf, hparts⟩ := hsound sel h
    -- the parser finds properties as long as those of any form, and they are those of `f`
    have hlongest : ∀ g : Form, g.Spells s →
        g.parts.properties.length ≤ f.parts.properties.length := by
      intro g hg
      obtain ⟨p, hp, hlen⟩ := hcomplete g hg
      have hsel : some p = some sel.parts := hp.symm.trans (parse_eq_ok_iff.1 h)
      rw [hparts]
      rwa [Option.some.inj hsel] at hlen
    exact ⟨f, ⟨hf, hlongest, Form.closes_last_of_longest hf hlongest⟩, hparts⟩
  · apply parse_of_parts?_eq_none
    cases hp : parts? s.toList with
    | none => rfl
    | some p =>
      have hok : parse s = .ok ⟨p, parts?_grammatical hp⟩ := parse_eq_ok_iff.2 hp
      obtain ⟨f, hf, -⟩ := hsound _ hok
      exact absurd ⟨f, hf⟩ hnone

/-- The first `)#` does not close the properties, as there is another one. -/
example : parts? "/a?x(p)#b)#c".toList =
    some ⟨"/a".toList, "x".toList, "p)#b".toList, "c".toList⟩ := by decide

/-! ## Writing and reading again -/

namespace Parts

/-- A part that is left out if it is empty. -/
def present (part : List Char) : Option (List Char) := if part = [] then none else some part

/-- A part that is left out when it is empty is empty when it is left out. -/
@[simp] theorem getD_present (part : List Char) : (present part).getD [] = part := by
  by_cases h : part = [] <;> simp [present, h]

/-- The form that is written of the parts: those that are empty are left out, but for the question
mark in front of a fragment. -/
def form (p : Parts) : Form where
  path := p.path
  query := if p.optionalText = [] then none else some (p.predicate, present p.properties)
  fragment := present p.fragment

/-- No optional text is written exactly if all three parts are empty. -/
theorem optionalText_eq_nil_iff {p : Parts} :
    p.optionalText = [] ↔ p.predicate = [] ∧ p.properties = [] ∧ p.fragment = [] := by
  by_cases hproperties : p.properties = [] <;> by_cases hfragment : p.fragment = [] <;>
    simp [optionalText, fragmentText, hproperties, hfragment]

/-- The fragment is written as it is in the form. -/
private theorem fragmentText_present (p : Parts) :
    Form.fragmentText (present p.fragment) = p.fragmentText := by
  by_cases h : p.fragment = [] <;> simp [present, fragmentText, Form.fragmentText, h]

/-- The properties are written as they are in the form. -/
private theorem propertiesText_present (properties : List Char) :
    Form.propertiesText (present properties) =
      if properties = [] then [] else '(' :: properties ++ [')'] := by
  by_cases h : properties = [] <;> simp [present, Form.propertiesText, h]

/-- A selector is written as its form. -/
private theorem text_form (p : Parts) : p.form.text = p.text := by
  rw [Form.text, form, fragmentText_present, text]
  by_cases hoptional : p.optionalText = []
  · obtain ⟨-, -, hfragment⟩ := optionalText_eq_nil_iff.1 hoptional
    simp [Form.queryText, fragmentText, hoptional, hfragment]
  · rw [if_neg hoptional, if_neg hoptional, Form.queryText, propertiesText_present]
    simp [optionalText]

/-- The form of some parts has these parts. -/
private theorem parts_form (p : Parts) : p.form.parts = p := by
  by_cases hoptional : p.optionalText = []
  · cases p
    obtain ⟨rfl, rfl, rfl⟩ := optionalText_eq_nil_iff.1 hoptional
    rfl
  · simp [form, Form.parts, hoptional]

/-- The form of grammatical parts is allowed. -/
private theorem Grammatical.allowed_form {p : Parts} (h : p.Grammatical) : p.form.Allowed :=
  Form.allowed_of_grammatical (p.parts_form.symm ▸ h)

/-- What follows the predicate is read as the properties and the fragment. -/
private theorem Grammatical.tail?_present {p : Parts} (h : p.Grammatical) :
    tail? (Form.propertiesText (present p.properties) ++ Form.fragmentText (present p.fragment)) =
      some (p.properties, p.fragment) := by
  have hline : '\n' ∉ (present p.fragment).getD [] := by simpa using h.fragment_oneLine
  have hfragment := Form.fragment?_fragmentText hline
  rw [getD_present] at hfragment
  by_cases hp : p.properties = []
  · have htail := Form.tail?_of_no_properties hline
    rw [getD_present] at htail
    rw [present, if_pos hp, htail, hp]
  · -- no parenthesis in the fragment can be mistaken for the one that closes the properties
    have hlast : cutProperties (Form.fragmentText (present p.fragment)) = none := by
      rw [fragmentText_present]
      exact h.properties_longest hp
    have hcut : cutProperties (p.properties ++ ')' :: Form.fragmentText (present p.fragment)) =
        some (p.properties, Form.fragmentText (present p.fragment)) :=
      cutProperties_eq_some_iff.2 ⟨rfl, Form.ends_fragmentText _, hlast⟩
    rw [present, if_neg hp]
    exact Form.tail?_of_properties hcut h.properties_oneLine hfragment

/-- What is written of the parts of a selector is read as these parts. -/
theorem Grammatical.parts?_text {p : Parts} (h : p.Grammatical) : parts? p.text = some p := by
  rw [← text_form, Form.parts?_text h.allowed_form]
  by_cases hoptional : p.optionalText = []
  · cases p
    obtain ⟨rfl, rfl, rfl⟩ := optionalText_eq_nil_iff.1 hoptional
    rfl
  · simp only [form, if_neg hoptional]
    rw [h.tail?_present]
    rfl

end Parts

/-- The text of a selector is read as that selector, whether it was read itself, names one path or
was put under other paths. -/
theorem parse_own_text (s : Selector) : parse s.text = .ok s := by
  have hparts := s.grammatical.parts?_text
  rw [parse_eq_ok_iff, text, String.toList_ofList, hparts]

end PathSpace.Selector
