import PathSpace.Address.Path
/-!
# Canonical texts

A path is read by making its text canonical.  Below a root it does not matter whether a text has
been made canonical before, and the text of a path is canonical already.

## Key results

- `canonical_append_canonical`: a text below a root, made canonical first or not
- `head?_canonical`: a canonical form starts as the text does
- `parse_eq_ok_iff`: which texts are read, and as which path
- `parse_text`: the text of a path is read as that path
- `exists_under`, `length_lt_of_under`: paths below a root
-/

namespace PathSpace.Path

instance : Std.LawfulEqOrd Path where
  eq_of_compare {a b} h := by
    have htext : compare a.text b.text = .eq := h
    exact ext (Std.LawfulEqOrd.eq_of_compare htext)

/-! ## Runs of slashes -/

/-- A slash that was held back is written before the next character. -/
theorem collapse_cons_of_ne {c : Char} (hc : c ≠ '/') (b : Bool) (text : List Char) :
    collapse b (c :: text) = if b then '/' :: c :: collapse false text
      else c :: collapse false text := by
  rw [collapse, if_neg hc]

/-- A slash is held back. -/
theorem collapse_cons_slash (b : Bool) (text : List Char) :
    collapse b ('/' :: text) = collapse true text := by
  rw [collapse, if_pos rfl]

/-- A slash cuts a text in two: what stands behind it collapses as if it came first. -/
theorem collapse_append_slash (b : Bool) (root text : List Char) :
    collapse b (root ++ '/' :: text) = collapse b root ++ collapse true text := by
  induction root generalizing b with
  | nil => exact collapse_cons_slash b text
  | cons c rest ih =>
    by_cases hc : c = '/'
    · subst hc
      rw [List.cons_append, collapse_cons_slash, collapse_cons_slash, ih]
    · rw [List.cons_append, collapse_cons_of_ne hc, collapse_cons_of_ne hc, ih]
      cases b <;> rfl

/-- Behind a slash it does not matter whether runs have collapsed already. -/
theorem collapse_true_collapse (b : Bool) (text : List Char) :
    collapse true (collapse b text) = collapse true text := by
  induction text generalizing b with
  | nil => rfl
  | cons c rest ih =>
    by_cases hc : c = '/'
    · subst hc
      rw [collapse_cons_slash, collapse_cons_slash, ih]
    · rw [collapse_cons_of_ne hc, collapse_cons_of_ne hc, if_pos rfl]
      -- with `true` the collapsed text starts with a slash, and that collapses again
      cases b with
      | true =>
        rw [if_pos rfl, collapse_cons_slash, collapse_cons_of_ne hc, if_pos rfl, collapse_collapse]
      | false => rw [if_neg (by simp), collapse_cons_of_ne hc, if_pos rfl, collapse_collapse]

/-- Behind a slash the canonical form collapses as the text does. -/
theorem collapse_true_canonical (text : List Char) :
    collapse true (canonical text) = collapse true text := by
  rw [canonical]
  split
  · next h => rw [h]
  · split
    · next hslashes =>
      -- only slashes, of which one stays
      rw [← collapse_true_collapse false text, hslashes]
      rfl
    · exact collapse_true_collapse false text

/-- A text under a root is collapsed in two halves. -/
theorem canonical_append_slash (root text : List Char) :
    canonical (root ++ '/' :: text) =
      if collapse false root ++ collapse true text = [] then ['/']
      else collapse false root ++ collapse true text := by
  rw [canonical, if_neg (by simp), collapse_append_slash]

/-- Below a root it does not matter whether a text has been made canonical before. -/
theorem canonical_append_canonical (root text : List Char) :
    canonical (root ++ '/' :: canonical text) = canonical (root ++ '/' :: text) := by
  rw [canonical_append_slash, canonical_append_slash, collapse_true_canonical]

/-- A canonical text collapses to itself; of a single slash nothing stays. -/
theorem collapse_false_of_canonical {text : List Char} (h : canonical text = text) :
    collapse false text = if text = ['/'] then [] else text := by
  rw [canonical] at h
  split at h
  · next hnil => rw [hnil, if_neg (by simp)]; rfl
  · split at h
    · next hslashes => rw [hslashes, if_pos h.symm]
    · next hne =>
      rw [if_neg, h]
      rintro rfl
      exact hne rfl

/-- In front of a canonical text that does not start with a slash, one is put. -/
theorem collapse_true_of_canonical {text : List Char} (h : canonical text = text)
    (hne : text ≠ []) (hslash : text.head? ≠ some '/') : collapse true text = '/' :: text := by
  have hcollapse := collapse_false_of_canonical h
  cases text with
  | nil => exact absurd rfl hne
  | cons c rest =>
    have hc : c ≠ '/' := by rintro rfl; exact hslash rfl
    rw [collapse_cons_of_ne hc, if_neg (by simp), if_neg (by simp [hc])] at hcollapse
    rw [collapse_cons_of_ne hc, if_pos rfl, hcollapse]

/-- A text behind a slash vanishes, or begins with the slash. -/
theorem head?_collapse_true (text : List Char) :
    collapse true text = [] ∨ (collapse true text).head? = some '/' := by
  induction text with
  | nil => exact .inl rfl
  | cons c rest ih =>
    by_cases hc : c = '/'
    · subst hc
      rwa [collapse_cons_slash]
    · rw [collapse_cons_of_ne hc, if_pos rfl]
      exact .inr rfl

/-- A canonical form starts as the text does. -/
theorem head?_canonical (text : List Char) : (canonical text).head? = text.head? := by
  cases text with
  | nil => rfl
  | cons c rest =>
    rw [canonical, if_neg (by simp)]
    -- a slash in front stays in front
    by_cases hc : c = '/'
    · subst hc
      rw [collapse_cons_slash]
      rcases head?_collapse_true rest with hnil | hslash
      · rw [if_pos hnil]
        rfl
      · rw [if_neg (by rintro hnil; simp [hnil] at hslash), hslash]
        rfl
    · rw [collapse_cons_of_ne hc, if_neg (by simp), if_neg (by simp)]
      rfl

/-! ## Reading -/

/-- A text of allowed characters has no forbidden one. -/
theorem firstForbidden?_of_allowed {text : List Char} (h : ∀ c ∈ text, c ∉ forbidden) (n : Nat) :
    firstForbidden? n text = none := by
  induction text generalizing n with
  | nil => rfl
  | cons c rest ih =>
    rw [firstForbidden?, if_neg (h c List.mem_cons_self)]
    exact ih (fun d hd => h d (List.mem_cons_of_mem _ hd)) _

/-- A text of allowed characters is a path, unless it is empty. -/
theorem exists_parse_of_allowed {s : String} (hne : s.toList ≠ [])
    (h : ∀ c ∈ s.toList, c ∉ forbidden) :
    ∃ p, parse s = .ok p ∧ p.text.toList = canonical s.toList := by
  have hnone := firstForbidden?_of_allowed h 0
  unfold parse
  rw [dif_neg hne]
  split
  · next i hsome => rw [hnone] at hsome; cases hsome
  · exact ⟨_, rfl, String.toList_ofList⟩

/-- A text that is not empty and has no forbidden character is read as its canonical form. -/
theorem parse_eq_ok_iff {s : String} {p : Path} :
    parse s = .ok p ↔ s.toList ≠ [] ∧ (∀ c ∈ s.toList, c ∉ forbidden) ∧
      p.text.toList = canonical s.toList := by
  constructor
  · intro h
    unfold parse at h
    split at h
    · cases h
    · next hne =>
      split at h
      · cases h
      · next hnone =>
        cases h
        exact ⟨hne, firstForbidden?_eq_none hnone, String.toList_ofList⟩
  · rintro ⟨hne, hallowed, htext⟩
    obtain ⟨q, hq, hqtext⟩ := exists_parse_of_allowed hne hallowed
    rw [hq, ext (String.toList_injective (hqtext.trans htext.symm))]

/-- The text of a path is read as that path. -/
theorem parse_text (p : Path) : parse p.text = .ok p :=
  parse_eq_ok_iff.2 ⟨p.nonempty, p.allowed, p.isCanonical.symm⟩

/-- No path has a star. -/
theorem star_not_mem (p : Path) : '*' ∉ p.text.toList := fun hmem =>
  p.allowed '*' hmem (by decide)

/-- A path below a root: its text behind that of the root, made canonical. -/
theorem exists_under (p root : Path) :
    ∃ q, p.under root = .ok q ∧
      q.text.toList = canonical (root.text.toList ++ '/' :: p.text.toList) := by
  have htext : (root.text ++ "/" ++ p.text).toList = root.text.toList ++ '/' :: p.text.toList := by
    simp
  have hallowed : ∀ c ∈ (root.text ++ "/" ++ p.text).toList, c ∉ forbidden := by
    intro c hc
    rw [htext, List.mem_append, List.mem_cons] at hc
    rcases hc with hc | rfl | hc
    · exact root.allowed c hc
    · decide
    · exact p.allowed c hc
  obtain ⟨q, hq, hqtext⟩ := exists_parse_of_allowed (by simp [htext]) hallowed
  exact ⟨q, hq, htext ▸ hqtext⟩

/-- A relative path gets longer below a root. -/
theorem length_lt_of_under {p root q : Path} (hp : p.isRelative = true)
    (hq : p.under root = .ok q) : p.text.toList.length < q.text.toList.length := by
  obtain ⟨q', hq', htext⟩ := p.exists_under root
  obtain rfl := Except.ok.inj (hq.symm.trans hq')
  have hslash : p.text.toList.head? ≠ some '/' := by simpa [isRelative] using hp
  rw [htext, canonical_append_slash, collapse_true_of_canonical p.isCanonical p.nonempty hslash,
    if_neg (by simp), List.length_append, List.length_cons]
  omega

end PathSpace.Path
