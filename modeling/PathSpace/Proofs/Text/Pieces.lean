import PathSpace.Text.Segments
import Mathlib.Data.List.Basic
/-!
# Cutting, joining and finding pieces

What cutting a text at a character (`List.splitOn`) and joining pieces (`List.intercalate`) do to
its characters, beside what the library says, and what the searches `Text.cutAt` and
`Text.afterFirst` find, in terms of `++`.

## Key results

- `mem_of_mem_splitOn`: what occurs in a piece occurs in the text, and is no separator
- `mem_of_mem_intercalate`: what occurs in a joined text is from a piece, or the separator
- `cutAt_eq_some_iff`: a text is cut at its first separator
- `afterFirst_some` / `afterFirst_none`: the leftmost occurrence leaves the longest rest
-/

namespace PathSpace.Text

/-! ## Cutting and joining -/

/-- A leading separator cuts an empty piece off. -/
theorem splitOn_cons_self (sep : Char) (s : List Char) :
    (sep :: s).splitOn sep = [] :: s.splitOn sep := by
  rw [List.splitOn_cons_eq_if_modifyHead, if_pos (beq_self_eq_true sep)]

/-- Any other leading character goes to the first piece. -/
theorem splitOn_cons_of_ne {sep c : Char} {s piece : List Char} {pieces : List (List Char)}
    (hc : c ≠ sep) (hs : s.splitOn sep = piece :: pieces) :
    (c :: s).splitOn sep = (c :: piece) :: pieces := by
  simp [List.splitOn_cons_eq_if_modifyHead, hc, hs]

/-- A text has a first piece. -/
theorem exists_splitOn_eq_cons (sep : Char) (s : List Char) :
    ∃ piece pieces, s.splitOn sep = piece :: pieces :=
  List.exists_cons_of_ne_nil (List.splitOn_ne_nil sep s)

/-- The separator occurs in no piece, and what occurs in a piece occurs in the text. -/
theorem mem_of_mem_splitOn {sep c : Char} {s piece : List Char}
    (hp : piece ∈ s.splitOn sep) (hc : c ∈ piece) : c ≠ sep ∧ c ∈ s := by
  induction s generalizing piece with
  | nil =>
    rw [List.splitOn_nil, List.mem_singleton] at hp
    subst hp
    cases hc
  | cons d rest ih =>
    obtain ⟨first, pieces, hs⟩ := exists_splitOn_eq_cons sep rest
    by_cases hd : d = sep
    · -- the separator itself is in no piece
      subst hd
      rw [splitOn_cons_self] at hp
      rcases List.mem_cons.1 hp with rfl | hp
      · cases hc
      · have h := ih hp hc
        exact ⟨h.1, List.mem_cons_of_mem _ h.2⟩
    · -- the first piece has one more character now
      rw [splitOn_cons_of_ne hd hs] at hp
      rcases List.mem_cons.1 hp with rfl | hp
      · rcases List.mem_cons.1 hc with rfl | hc
        · exact ⟨hd, List.mem_cons_self⟩
        · have h := ih (hs ▸ List.mem_cons_self) hc
          exact ⟨h.1, List.mem_cons_of_mem _ h.2⟩
      · have h := ih (hs ▸ List.mem_cons_of_mem _ hp) hc
        exact ⟨h.1, List.mem_cons_of_mem _ h.2⟩

/-- No piece has the separator. -/
theorem not_mem_of_mem_splitOn {sep : Char} {s piece : List Char} (hp : piece ∈ s.splitOn sep) :
    sep ∉ piece := fun h => (mem_of_mem_splitOn hp h).1 rfl

/-- A joined text has no characters besides those of the pieces and the separator. -/
theorem mem_of_mem_intercalate {sep c : Char} {pieces : List (List Char)}
    (h : c ∈ [sep].intercalate pieces) : c = sep ∨ ∃ p ∈ pieces, c ∈ p := by
  induction pieces with
  | nil => simp at h
  | cons p rest ih =>
    cases rest with
    | nil => exact .inr ⟨p, by simp, by simpa using h⟩
    | cons q rest =>
      simp only [List.intercalate_cons_cons, List.append_assoc, List.mem_append,
        List.mem_singleton] at h
      rcases h with h | h | h
      · exact .inr ⟨p, by simp, h⟩
      · exact .inl h
      · obtain h | ⟨r, hr, hc⟩ := ih h
        · exact .inl h
        · exact .inr ⟨r, List.mem_cons_of_mem _ hr, hc⟩

/-- Texts with the same pieces are the same. -/
theorem splitOn_injective (sep : Char) {s t : List Char} (h : s.splitOn sep = t.splitOn sep) :
    s = t := by
  have hs : [sep].intercalate (s.splitOn sep) = s := List.intercalate_splitOn sep
  rw [← hs, h, List.intercalate_splitOn]

/-! ## The first separator -/

/-- A text is cut at its first separator. -/
theorem cutAt_eq_some_iff {sep : Char} {text before after : List Char} :
    cutAt sep text = some (before, after) ↔ text = before ++ sep :: after ∧ sep ∉ before := by
  induction text generalizing before with
  | nil => simp [cutAt]
  | cons c rest ih =>
    rw [cutAt]
    by_cases hc : c = sep
    · subst hc
      rw [if_pos rfl]
      cases before with
      | nil => simp
      | cons b before => simp +contextual [eq_comm]
    · rw [if_neg hc, Option.map_eq_some_iff]
      -- a cut is never before the first character, which is not the separator
      cases before with
      | nil => simp [hc]
      | cons b before =>
        simp only [Prod.exists, Prod.mk.injEq, List.cons_append, List.cons.injEq]
        constructor
        · rintro ⟨before', after', hcut, ⟨rfl, rfl⟩, rfl⟩
          obtain ⟨hrest, hbefore⟩ := ih.1 hcut
          exact ⟨⟨rfl, hrest⟩, by simp [Ne.symm hc, hbefore]⟩
        · rintro ⟨⟨rfl, hrest⟩, hbefore⟩
          exact ⟨before, after, ih.2 ⟨hrest, List.not_mem_of_not_mem_cons hbefore⟩, ⟨rfl, rfl⟩, rfl⟩

theorem cutAt_eq_none_iff {sep : Char} {text : List Char} :
    cutAt sep text = none ↔ sep ∉ text := by
  induction text with
  | nil => simp [cutAt]
  | cons c rest ih =>
    rw [cutAt]
    split
    · next hc => simp [hc]
    · next hc => rw [Option.map_eq_none_iff, ih, List.mem_cons, not_or, and_iff_right (Ne.symm hc)]

/-! ## Finding a piece -/

/-- The leftmost occurrence leaves a rest of which every other rest is a part. -/
theorem afterFirst_some {part text rest : List Char} (h : afterFirst part text = some rest) :
    (∃ gap, text = gap ++ part ++ rest) ∧
      ∀ gap rest', text = gap ++ part ++ rest' → rest' <:+ rest := by
  induction text with
  | nil =>
    have h := List.isPrefixOf?_eq_some_iff_append_eq.1
      (show part.isPrefixOf? [] = some rest from h)
    refine ⟨⟨[], by simpa using h.symm⟩, fun gap rest' h' => ?_⟩
    simp only [List.nil_eq, List.append_eq_nil_iff] at h'
    exact h'.2 ▸ List.nil_suffix
  | cons c text ih =>
    rw [afterFirst] at h
    cases hd : part.isPrefixOf? (c :: text) with
    | some tail =>
      rw [hd] at h
      obtain rfl : tail = rest := Option.some.inj h
      have ht := (List.isPrefixOf?_eq_some_iff_append_eq.1 hd).symm
      refine ⟨⟨[], ht⟩, fun gap rest' h' => ?_⟩
      -- the other occurrence lies `gap` further to the right
      have hlen : rest'.length ≤ tail.length := by
        have := congrArg List.length (ht.symm.trans h')
        simp only [List.length_append] at this
        omega
      have h₁ : rest' <:+ c :: text := ⟨gap ++ part, h'.symm⟩
      have h₂ : tail <:+ c :: text := ⟨part, ht.symm⟩
      exact List.suffix_of_suffix_length_le h₁ h₂ hlen
    | none =>
      rw [hd] at h
      obtain ⟨⟨gap, hgap⟩, hmost⟩ := ih h
      refine ⟨⟨c :: gap, by simp [hgap]⟩, fun gap' rest' h' => ?_⟩
      cases gap' with
      | nil =>
        rw [List.nil_append] at h'
        rw [List.isPrefixOf?_eq_some_iff_append_eq.2 h'.symm] at hd
        cases hd
      | cons d gap' =>
        simp only [List.cons_append, List.cons.injEq] at h'
        exact hmost gap' rest' h'.2

theorem afterFirst_none {part text : List Char} (h : afterFirst part text = none)
    (gap rest : List Char) : text ≠ gap ++ part ++ rest := by
  induction text generalizing gap with
  | nil =>
    intro ht
    simp only [List.nil_eq, List.append_eq_nil_iff] at ht
    obtain ⟨⟨-, rfl⟩, -⟩ := ht
    simp [afterFirst, List.isPrefixOf?] at h
  | cons c text ih =>
    intro ht
    rw [afterFirst] at h
    cases hd : part.isPrefixOf? (c :: text) with
    | some tail => simp [hd] at h
    | none =>
      rw [hd] at h
      cases gap with
      | nil =>
        rw [List.isPrefixOf?_eq_some_iff_append_eq.2 (by simpa using ht.symm)] at hd
        cases hd
      | cons d gap =>
        simp only [List.cons_append, List.cons.injEq] at ht
        exact ih h gap ht.2

end PathSpace.Text
