import PathSpace.Proofs.Address.Path
import PathSpace.Proofs.Text.Pieces
/-!
# Segments

The segments of a text are what stands between its slashes, where something does.  A canonical
form has the same segments as the text, with one slash between them, so a path is told by its
segments and by whether it starts with a slash.

## Key results

- `canonical_eq`: the canonical form of a text, put together from its segments
- `not_doubled_of_canonical`, `eq_slash_of_trailing`: where a canonical text has no slash
- `eq_iff_of_parse`: which texts are read as the same path
- `reads_parse`: what comes of reading a text
- `parse_canonical`: which texts are read, as what, and which of them as the same path
-/

namespace PathSpace.Path

open Text

/-- What stands between the slashes of a text, where something does. -/
def segments (text : List Char) : List (List Char) := (text.splitOn '/').filter (· ≠ [])

/-! ## The canonical form and the segments -/

/-- A piece without slashes stays as it is, and a slash that was held back comes before it. -/
private theorem collapse_of_not_mem {piece : List Char} (h : '/' ∉ piece) (b : Bool) :
    collapse b piece = if b ∧ piece ≠ [] then '/' :: piece else piece := by
  induction piece generalizing b with
  | nil => simp [collapse]
  | cons c rest ih =>
    obtain ⟨hc, hrest⟩ := List.ne_and_not_mem_of_not_mem_cons h
    rw [collapse_cons_of_ne (Ne.symm hc), ih hrest]
    cases b <;> simp

/-- Behind a slash a text collapses to its segments, each with a slash in front. -/
private theorem collapse_true_eq (text : List Char) :
    collapse true text = (segments text).flatMap ('/' :: ·) := by
  -- a text is its pieces, joined; so the induction can be on the pieces
  suffices h : ∀ pieces : List (List Char), (∀ p ∈ pieces, '/' ∉ p) →
      collapse true (['/'].intercalate pieces) = (pieces.filter (· ≠ [])).flatMap ('/' :: ·) by
    have hpieces := h (text.splitOn '/') fun p hp => not_mem_of_mem_splitOn hp
    rwa [List.intercalate_splitOn] at hpieces
  intro pieces hpieces
  induction pieces with
  | nil => rfl
  | cons piece pieces ih =>
    have hpiece := collapse_of_not_mem (hpieces piece List.mem_cons_self) true
    cases pieces with
    | nil =>
      rw [List.intercalate_singleton, hpiece]
      by_cases hne : piece = [] <;> simp [hne]
    | cons next pieces =>
      rw [List.intercalate_cons_cons, List.append_assoc, List.singleton_append,
        collapse_append_slash, hpiece, ih fun p hp => hpieces p (List.mem_cons_of_mem _ hp)]
      by_cases hne : piece = [] <;> simp [hne]

/-- A slash in front adds no segment. -/
private theorem segments_cons_slash (text : List Char) :
    segments ('/' :: text) = segments text := by
  simp [segments, splitOn_cons_self]

/-- A separator before every piece is one in front and one between each two. -/
private theorem flatMap_cons_eq {pieces : List (List Char)} (h : pieces ≠ []) (sep : Char) :
    pieces.flatMap (sep :: ·) = sep :: [sep].intercalate pieces := by
  induction pieces with
  | nil => exact absurd rfl h
  | cons piece pieces ih =>
    cases pieces with
    | nil => simp
    | cons next pieces =>
      rw [List.flatMap_cons, ih (by simp), List.intercalate_cons_cons]
      simp

/-- A canonical form is the segments of the text with slashes between them, behind a slash if the
text starts with one. -/
theorem canonical_eq (text : List Char) :
    canonical text = (if text.head? = some '/' then ['/'] else []) ++
      ['/'].intercalate (segments text) := by
  cases text with
  | nil => rfl
  | cons c rest =>
    rw [canonical, if_neg (by simp)]
    by_cases hc : c = '/'
    · subst hc
      rw [collapse_cons_slash, collapse_true_eq, segments_cons_slash]
      -- slashes only, or a first segment behind them
      by_cases hsegments : segments rest = []
      · simp [hsegments]
      · rw [flatMap_cons_eq hsegments]
        simp
    · -- with a slash in front the text would collapse to its segments as they stand
      have hslash : '/' :: collapse false (c :: rest) = collapse true (c :: rest) := by
        rw [collapse_cons_of_ne hc, collapse_cons_of_ne hc]
        rfl
      have hsegments : segments (c :: rest) ≠ [] := by
        intro hnil
        rw [collapse_true_eq, hnil] at hslash
        cases hslash
      rw [collapse_true_eq, flatMap_cons_eq hsegments, List.cons.injEq] at hslash
      rw [if_neg (by simp [collapse_cons_of_ne hc]), hslash.2]
      simp [hc]

/-- Segments that are put together with slashes are cut apart again. -/
private theorem segments_intercalate {pieces : List (List Char)} (hne : ∀ p ∈ pieces, p ≠ [])
    (h : ∀ p ∈ pieces, '/' ∉ p) : segments (['/'].intercalate pieces) = pieces := by
  by_cases hnil : pieces = []
  · rw [hnil]
    rfl
  · rw [segments, List.splitOn_intercalate '/' h hnil, List.filter_eq_self]
    exact fun p hp => decide_eq_true (hne p hp)

/-- A canonical form has the segments of the text. -/
theorem segments_canonical (text : List Char) : segments (canonical text) = segments text := by
  have hjoin : segments (['/'].intercalate (segments text)) = segments text :=
    segments_intercalate (fun p hp => of_decide_eq_true (List.mem_filter.1 hp).2)
      fun p hp => not_mem_of_mem_splitOn (List.mem_filter.1 hp).1
  rw [canonical_eq]
  split
  · rw [List.singleton_append, segments_cons_slash, hjoin]
  · rw [List.nil_append, hjoin]

/-- Two texts have the same canonical form if they have the same segments, and both start with a
slash or neither does. -/
private theorem canonical_eq_iff {s t : List Char} :
    canonical s = canonical t ↔
      (s.head? = some '/' ↔ t.head? = some '/') ∧ segments s = segments t := by
  constructor
  · intro h
    constructor
    · rw [← head?_canonical s, h, head?_canonical]
    · rw [← segments_canonical s, h, segments_canonical]
  · rintro ⟨hhead, hsegments⟩
    rw [canonical_eq, canonical_eq, hsegments]
    simp only [hhead]

/-! ## Where a canonical text has no slash -/

/-- To collapse slashes makes no text longer, but for the one that was held back. -/
private theorem length_collapse_le (b : Bool) (text : List Char) :
    (collapse b text).length ≤ text.length + b.toNat := by
  induction text generalizing b with
  | nil => simp [collapse]
  | cons c rest ih =>
    by_cases hc : c = '/'
    · subst hc
      have hrest := ih true
      rw [collapse_cons_slash, List.length_cons]
      simp only [Bool.toNat_true] at hrest
      omega
    · have hrest := ih false
      rw [collapse_cons_of_ne hc]
      cases b <;> simp at hrest ⊢ <;> omega

/-- A canonical text has no two slashes side by side. -/
theorem not_doubled_of_canonical {text : List Char} (h : canonical text = text) :
    ¬ ['/', '/'] <:+: text := by
  rintro ⟨before, after, htext⟩
  have hcollapse := collapse_false_of_canonical h
  -- the lone slash is excluded at the end
  rw [if_neg] at hcollapse
  · -- one of the slashes is lost, and so the text gets shorter
    have hshort := length_collapse_le false (before ++ '/' :: after)
    rw [← htext, List.append_assoc, List.cons_append, List.singleton_append,
      collapse_append_slash, collapse_cons_slash, ← collapse_append_slash] at hcollapse
    rw [hcollapse] at hshort
    simp only [List.length_append, List.length_cons, Bool.toNat_false] at hshort
    omega
  · intro hslash
    have hlen := congrArg List.length (htext.trans hslash)
    simp at hlen
    omega

/-- A canonical text that ends with a slash is nothing but that slash. -/
theorem eq_slash_of_trailing {text : List Char} (h : canonical text = text)
    (hlast : text.getLast? = some '/') : text = ['/'] := by
  obtain ⟨before, rfl⟩ := List.getLast?_eq_some_iff.1 hlast
  by_contra hne
  have hcollapse := collapse_false_of_canonical h
  have hshort := length_collapse_le false before
  rw [if_neg hne, collapse_append_slash, collapse, List.append_nil] at hcollapse
  rw [hcollapse, List.length_append] at hshort
  simp only [List.length_singleton, Bool.toNat_false] at hshort
  omega

/-! ## Reading -/

/-- The offset of the first forbidden character is the number of bytes in front of it. -/
private theorem firstForbidden?_append_cons {before after : List Char} {c : Char}
    (hbefore : ∀ d ∈ before, d ∉ forbidden) (hc : c ∈ forbidden) (n : Nat) :
    firstForbidden? n (before ++ c :: after) =
      some (n + (String.ofList before).utf8ByteSize) := by
  induction before generalizing n with
  | nil => simp [firstForbidden?, hc]
  | cons d before ih =>
    rw [List.cons_append, firstForbidden?, if_neg (hbefore d List.mem_cons_self),
      ih fun e he => hbefore e (List.mem_cons_of_mem _ he), String.ofList_cons,
      String.utf8ByteSize_append, String.utf8ByteSize_singleton, Nat.add_assoc]

/-- A text that has a forbidden character has a first one. -/
private theorem exists_first_forbidden {text : List Char} (h : ∃ c ∈ text, c ∈ forbidden) :
    ∃ before c after, text = before ++ c :: after ∧ (∀ d ∈ before, d ∉ forbidden) ∧
      c ∈ forbidden := by
  obtain ⟨c, hfind⟩ := Option.isSome_iff_exists.1
    (List.find?_isSome (p := (· ∈ forbidden)) |>.2 (by simpa using h))
  obtain ⟨hc, before, after, htext, hbefore⟩ := List.find?_eq_some_iff_append.1 hfind
  exact ⟨before, c, after, htext, by simpa using hbefore, by simpa using hc⟩

/-- The first forbidden character is reported with the number of bytes before it. -/
private theorem parse_of_forbidden {s : String} {before after : List Char} {c : Char}
    (hs : s.toList = before ++ c :: after) (hbefore : ∀ d ∈ before, d ∉ forbidden)
    (hc : c ∈ forbidden) {i : Nat} (hi : i = (String.ofList before).utf8ByteSize) :
    parse s = .error (.invalidPath s s!"forbidden character at index {i}" (some i)) := by
  have hfirst : firstForbidden? 0 s.toList = some i := by
    rw [hs, firstForbidden?_append_cons hbefore hc, hi, Nat.zero_add]
  unfold parse
  rw [dif_neg (by simp [hs])]
  split
  · next j hj =>
    obtain rfl : i = j := Option.some.inj (hfirst.symm.trans hj)
    rfl
  · next hnone => exact absurd (hfirst.symm.trans hnone) (by simp)

/-- The path `p` is how the text `s` is written. -/
structure Writes (p : Path) (s : String) : Prop where
  nonempty : p.text ≠ ""
  /-- Both start with a slash, or neither does. -/
  head_slash : p.text.toList.head? = some '/' ↔ s.toList.head? = some '/'
  not_doubled : ¬ ['/', '/'] <:+: p.text.toList
  not_trailing : p.text ≠ "/" → p.text.toList.getLast? ≠ some '/'
  same_segments : segments p.text.toList = segments s.toList

/-- A path that was parsed writes the canonical form of the text. -/
private theorem writes_of_parse {s : String} {p : Path} (h : parse s = .ok p) : p.Writes s := by
  obtain ⟨-, -, htext⟩ := parse_eq_ok_iff.1 h
  exact {
    nonempty := fun hempty => p.nonempty (String.toList_eq_nil_iff.2 hempty)
    head_slash := by rw [htext, head?_canonical]
    not_doubled := not_doubled_of_canonical p.isCanonical
    not_trailing := fun hne hlast =>
      hne (String.toList_injective (eq_slash_of_trailing p.isCanonical hlast))
    same_segments := by rw [htext, segments_canonical] }

/-- What may come of reading a text, and when. -/
inductive Reads (s : String) : Except Error Path → Prop
  /-- There is nothing to read. -/
  | empty (h : s = "") : Reads s (.error (.invalidPath s "empty string" none))
  /-- The first forbidden character is named by the number of bytes in front of it. -/
  | forbidden (before after : List Char) (c : Char) (i : Nat) (hs : s.toList = before ++ c :: after)
      (hbefore : ∀ d ∈ before, d ∉ forbidden) (hc : c ∈ forbidden)
      (hi : i = (String.ofList before).utf8ByteSize) :
      Reads s (.error (.invalidPath s s!"forbidden character at index {i}" (some i)))
  /-- Every other text is read. -/
  | path (p : Path) (hne : s ≠ "") (hallowed : ∀ c ∈ s.toList, c ∉ forbidden) (h : p.Writes s) :
      Reads s (.ok p)

/-- Every text is empty, or has a forbidden character, or is a path. -/
theorem reads_parse (s : String) : Reads s (parse s) := by
  by_cases hempty : s = ""
  · subst hempty
    exact .empty rfl
  by_cases hforbidden : ∃ c ∈ s.toList, c ∈ forbidden
  · obtain ⟨before, c, after, hs, hbefore, hc⟩ := exists_first_forbidden hforbidden
    rw [parse_of_forbidden hs hbefore hc rfl]
    exact .forbidden before after c _ hs hbefore hc rfl
  · have hallowed : ∀ c ∈ s.toList, c ∉ forbidden := fun c hc hmem => hforbidden ⟨c, hc, hmem⟩
    obtain ⟨p, hp, -⟩ := exists_parse_of_allowed (mt String.toList_eq_nil_iff.1 hempty) hallowed
    rw [hp]
    exact .path p hempty hallowed (writes_of_parse hp)

/-- Two texts are read as the same path if they have the same segments, and both start with a slash
or neither does. -/
theorem eq_iff_of_parse {s t : String} {p q : Path} (hp : parse s = .ok p) (hq : parse t = .ok q) :
    p = q ↔ (s.toList.head? = some '/' ↔ t.toList.head? = some '/') ∧
      segments s.toList = segments t.toList := by
  obtain ⟨-, -, hptext⟩ := parse_eq_ok_iff.1 hp
  obtain ⟨-, -, hqtext⟩ := parse_eq_ok_iff.1 hq
  rw [← canonical_eq_iff, ← hptext, ← hqtext]
  exact ⟨fun h => h ▸ rfl, fun h => ext (String.toList_injective h)⟩

/-- A text is refused if it is empty or has a forbidden character, the first of which is then
named, and is read as a path of its segments otherwise.  So it is told by its segments and its
first character which texts are read as one path, and a path is read from its own text. -/
theorem parse_canonical :
    (∀ s, Reads s (parse s)) ∧
    (∀ s, (∃ e, parse s = .error e) ↔ s = "" ∨ ∃ c ∈ s.toList, c ∈ forbidden) ∧
    (∀ s t p q, parse s = .ok p → parse t = .ok q →
      (p = q ↔ (s.toList.head? = some '/' ↔ t.toList.head? = some '/') ∧
        segments s.toList = segments t.toList)) ∧
    ∀ p : Path, parse p.text = .ok p := by
  refine ⟨reads_parse, fun s => ?_, fun s t p q => eq_iff_of_parse, parse_text⟩
  constructor
  · rintro ⟨e, he⟩
    -- an error is one of the two kinds
    cases he ▸ reads_parse s with
    | empty h => exact .inl h
    | forbidden before after c i hs hbefore hc hi => exact .inr ⟨c, by simp [hs], hc⟩
  · intro h
    cases hparse : parse s with
    | error e => exact ⟨e, rfl⟩
    | ok p =>
      obtain ⟨hne, hallowed, -⟩ := parse_eq_ok_iff.1 hparse
      rcases h with hempty | ⟨c, hc, hmem⟩
      · exact absurd (String.toList_eq_nil_iff.2 hempty) hne
      · exact absurd hmem (hallowed c hc)

/-- Two spellings of one path. -/
theorem parse_canonical_slashes :
    ∃ p q, parse "//a/" = .ok p ∧ parse "/a" = .ok q ∧ p = q := by
  obtain ⟨p, hp, -⟩ := exists_parse_of_allowed (s := "//a/") (by simp) (by simp [forbidden])
  obtain ⟨q, hq, -⟩ := exists_parse_of_allowed (s := "/a") (by simp) (by simp [forbidden])
  exact ⟨p, q, hp, hq, (parse_canonical.2.2.1 "//a/" "/a" p q hp hq).2
    (by decide)⟩

end PathSpace.Path
