import PathSpace.Proofs.Address.Glob
/-!
# What a segment with stars stands for

A segment with stars stands for the texts that arise when some text, perhaps none, is put in place
of each star.  Holding a segment against a text means to look for its pieces from left to right, and
of a piece in the middle only the leftmost place is ever tried.  What stands behind it is the most
that any place leaves, so a text that arises is never missed.

## Key results

- `fills_iff_exists_fill`: `Fills`, with the texts for the stars in a list
- `Fills.exists_middle`: the fixed ends of a pattern lie apart in the text
- `exists_leftmost`: the leftmost place of a piece is as good as any other
- `globMatches_iff_fill`: `globMatches` tells which texts arise
-/

namespace PathSpace.Wildcard

open Text

/-- Puts the fillings, from left to right, in place of the stars.  A star without a filling is left
out. -/
def fill : (pattern : List Char) → (fillings : List (List Char)) → List Char
  | [], _ => []
  | c :: pattern, fillings =>
    if c = '*' then fillings.headD [] ++ fill pattern fillings.tail
    else c :: fill pattern fillings

private theorem fill_cons_star (pattern filling : List Char) (fillings : List (List Char)) :
    fill ('*' :: pattern) (filling :: fillings) = filling ++ fill pattern fillings := rfl

private theorem fill_cons_of_ne {c : Char} (hc : c ≠ '*') (pattern : List Char)
    (fillings : List (List Char)) : fill (c :: pattern) fillings = c :: fill pattern fillings := by
  rw [fill, if_neg hc]

/-- A text fills a pattern if it arises from one filling for each star. -/
theorem fills_iff_exists_fill {pattern text : List Char} :
    Fills pattern text ↔
      ∃ fillings : List (List Char),
        fillings.length = pattern.count '*' ∧ fill pattern fillings = text := by
  constructor
  · intro h
    induction h with
    | nil => exact ⟨[], rfl, rfl⟩
    | char hc _ ih =>
      obtain ⟨fillings, hlength, hfill⟩ := ih
      refine ⟨fillings, ?_, ?_⟩
      · rw [hlength, List.count_cons_of_ne hc]
      · rw [fill_cons_of_ne hc, hfill]
    | star filling _ ih =>
      obtain ⟨fillings, hlength, hfill⟩ := ih
      refine ⟨filling :: fillings, ?_, ?_⟩
      · rw [List.length_cons, hlength, List.count_cons_self]
      · rw [fill_cons_star, hfill]
  · rintro ⟨fillings, hlength, rfl⟩
    -- the fillings are used up from the left, one at each star
    induction pattern generalizing fillings with
    | nil => exact .nil
    | cons c pattern ih =>
      by_cases hc : c = '*'
      · subst hc
        rw [List.count_cons_self] at hlength
        cases fillings with
        | nil => cases hlength
        | cons filling fillings => exact .star filling (ih fillings (Nat.succ.inj hlength))
      · rw [List.count_cons_of_ne hc] at hlength
        rw [fill_cons_of_ne hc]
        exact .char hc (ih fillings hlength)

/-! ## The fixed ends -/

/-- What stands in front of a star does not belong to the end. -/
private theorem fixedEnd_append {pattern : List Char} (h : '*' ∈ pattern) (before : List Char) :
    fixedEnd (before ++ pattern) = fixedEnd pattern := by
  rw [fixedEnd, fixedEnd, List.reverse_append, List.takeWhile_append, if_neg]
  intro hall
  have hmem : '*' ∈ pattern.reverse.takeWhile (· != '*') := by
    rw [(List.takeWhile_prefix _).eq_of_length hall]
    exact List.mem_reverse.2 h
  simpa using of_mem_takeWhile hmem

/-- The fixed ends of a pattern with a star do not overlap in a text that fills it. -/
theorem Fills.exists_middle {pattern text : List Char} (hstar : '*' ∈ pattern)
    (h : Fills pattern text) :
    ∃ middle, text = fixedStart pattern ++ middle ++ fixedEnd pattern := by
  obtain ⟨rest, hrest⟩ := eq_fixedStart_append hstar
  have hend : fixedEnd pattern = fixedEnd ('*' :: rest) := by
    rw [← fixedEnd_append List.mem_cons_self (fixedStart pattern), ← hrest]
  rw [hrest, append_left_iff (star_not_mem_fixedStart pattern)] at h
  obtain ⟨tail, rfl, htail⟩ := h
  -- the end is found in what is behind the start
  obtain ⟨middle, rfl⟩ := htail.fixedEnd_suffix
  exact ⟨middle, by rw [hend, List.append_assoc]⟩

/-! ## The leftmost place -/

/-- If the search can go on behind some place of a piece, it can go on behind the leftmost one. -/
theorem exists_leftmost {piece gap rest : List Char} {pieces : List (List Char)}
    (hne : pieces ≠ []) (h : piecesMatch pieces rest = true) :
    ∃ gap' rest', afterFirst piece (gap ++ piece ++ rest) = some rest' ∧
      gap ++ piece ++ rest = gap' ++ piece ++ rest' ∧ gap'.length ≤ gap.length ∧
      piecesMatch pieces rest' = true := by
  obtain ⟨next, pieces, rfl⟩ := List.exists_cons_of_ne_nil hne
  cases hfirst : afterFirst piece (gap ++ piece ++ rest) with
  | none => exact absurd rfl (afterFirst_none hfirst gap rest)
  | some rest' =>
    obtain ⟨⟨gap', hgap'⟩, hmost⟩ := afterFirst_some hfirst
    obtain ⟨gained, rfl⟩ := hmost gap rest rfl
    refine ⟨gap', _, rfl, hgap', ?_, ?_⟩
    · have hlength := congrArg List.length hgap'
      simp only [List.length_append] at hlength
      omega
    · -- the next piece has a longer gap in front of it
      rw [piecesMatch_iff] at h ⊢
      exact h.append_gap gained

/-! ## The search -/

/-- A text matches a pattern with a star exactly if it arises from the pattern by putting some text
in place of each star.  Then the fixed ends of the pattern do not overlap in it, and wherever a
piece in the middle could be taken, it can be taken at its leftmost place. -/
theorem globMatches_iff_fill {pattern : Segment} (hstar : '*' ∈ pattern) (text : Segment) :
    (globMatches pattern text = true ↔
      ∃ fillings : List (List Char),
        fillings.length = pattern.count '*' ∧ fill pattern fillings = text) ∧
    (globMatches pattern text = true →
      ∃ middle, text = fixedStart pattern ++ middle ++ fixedEnd pattern) ∧
    ∀ (piece : List Char) (pieces : List (List Char)) (gap rest : List Char), pieces ≠ [] →
      piecesMatch pieces rest = true →
      ∃ gap' rest', afterFirst piece (gap ++ piece ++ rest) = some rest' ∧
        gap ++ piece ++ rest = gap' ++ piece ++ rest' ∧ gap'.length ≤ gap.length ∧
        piecesMatch pieces rest' = true := by
  refine ⟨?_, fun h => ?_, fun piece pieces gap rest => exists_leftmost⟩
  · rw [globMatches_iff, fills_iff_exists_fill]
  · exact (globMatches_iff.1 h).exists_middle hstar

/-! ### A piece that overlaps itself -/

/-- The pattern `a*aba*a`. -/
def overlapping : Segment := "a*aba*a".toList

/-- The middle piece is taken at its first place in `ababaa`, although its second place would do. -/
theorem fill_of_overlapping :
    '*' ∈ overlapping ∧
      (∃ fillings : List (List Char), fillings.length = overlapping.count '*' ∧
        fill overlapping fillings = "aababaa".toList) ∧
      (∃ middle, "aababaa".toList = fixedStart overlapping ++ middle ++ fixedEnd overlapping) ∧
      ∃ gap rest, afterFirst "aba".toList "ababaa".toList = some rest ∧
        "ababaa".toList = gap ++ "aba".toList ++ rest ∧ gap.length ≤ "ab".toList.length ∧
        piecesMatch ["a".toList] rest = true := by
  have hstar : '*' ∈ overlapping := by decide
  have hmatches : globMatches overlapping "aababaa".toList = true := by decide
  obtain ⟨hfill, hapart, hleftmost⟩ := globMatches_iff_fill hstar "aababaa".toList
  exact ⟨hstar, hfill.1 hmatches, hapart hmatches,
    hleftmost "aba".toList ["a".toList] "ab".toList "a".toList (by decide) (by decide)⟩

end PathSpace.Wildcard
