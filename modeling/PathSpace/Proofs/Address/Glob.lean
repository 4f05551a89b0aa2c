import PathSpace.Address.Wildcard
import PathSpace.Proofs.Text.Pieces
/-!
# Stars within one segment

`Fills pattern text` says that the text arises from the pattern when some text is put in place
of each star.  The search for the pieces between the stars decides it, although it always takes
the leftmost occurrence of a piece, and two segments with stars have a common filling as soon as
their fixed ends agree.

## Key results

- `globMatches_iff`: `globMatches` decides `Fills`
- `segmentsMeet_of_fills`, `exists_fills_of_segmentsMeet`: `segmentsMeet` decides whether two
  segments have a common filling
-/

namespace PathSpace.Wildcard

open Text

/-- The text arises from the pattern when some text is put in place of each star. -/
inductive Fills : (pattern text : List Char) → Prop
  | nil : Fills [] []
  | char {c : Char} {pattern text : List Char} (hc : c ≠ '*') (h : Fills pattern text) :
      Fills (c :: pattern) (c :: text)
  | star {pattern text : List Char} (filling : List Char) (h : Fills pattern text) :
      Fills ('*' :: pattern) (filling ++ text)

namespace Fills

/-- What fills two patterns, one after the other, fills both. -/
theorem append {p q s t : List Char} (hp : Fills p s) (hq : Fills q t) :
    Fills (p ++ q) (s ++ t) := by
  induction hp with
  | nil => exact hq
  | char hc _ ih => exact .char hc ih
  | star filling _ ih =>
    rw [List.append_assoc]
    exact .star filling ih

/-- Without the stars, a pattern is one of its own fillings. -/
theorem literal (p : List Char) : Fills p (p.filter (· != '*')) := by
  induction p with
  | nil => exact .nil
  | cons c p ih =>
    by_cases hc : c = '*'
    · subst hc
      exact .star [] ih
    · rw [List.filter_cons_of_pos (by simpa using hc)]
      exact .char hc ih

/-- A pattern without stars has itself as its only filling. -/
theorem eq_of_not_mem {p t : List Char} (h : Fills p t) (hp : '*' ∉ p) : t = p := by
  induction h with
  | nil => rfl
  | char _ _ ih => rw [ih (List.not_mem_of_not_mem_cons hp)]
  | star => simp at hp

/-- A pattern without stars is filled by itself. -/
theorem refl {p : List Char} (hp : '*' ∉ p) : Fills p p := by
  have hkeep : p.filter (· != '*') = p := by
    rw [List.filter_eq_self]
    intro c hc
    have : c ≠ '*' := fun h => hp (h ▸ hc)
    simpa using this
  have h := literal p
  rwa [hkeep] at h

/-- What is written before the first star has to be there. -/
theorem append_left_iff {p q t : List Char} (hp : '*' ∉ p) :
    Fills (p ++ q) t ↔ ∃ rest, t = p ++ rest ∧ Fills q rest := by
  constructor
  · intro h
    induction p generalizing t with
    | nil => exact ⟨t, rfl, h⟩
    | cons c p ih =>
      cases h with
      | char _ h =>
        obtain ⟨rest, rfl, hrest⟩ := ih (List.not_mem_of_not_mem_cons hp) h
        exact ⟨rest, rfl, hrest⟩
      | star => simp at hp
  · rintro ⟨rest, rfl, h⟩
    exact (refl hp).append h

end Fills

/-! ## The pieces between the stars -/

/-- The text consists of the pieces in order, each behind some gap. -/
inductive Spread : (pieces : List (List Char)) → (text : List Char) → Prop
  | nil : Spread [] []
  | cons (gap : List Char) {piece : List Char} {pieces : List (List Char)} {text : List Char}
      (h : Spread pieces text) : Spread (piece :: pieces) (gap ++ piece ++ text)

namespace Spread

/-- The first gap can be made longer. -/
theorem append_gap {piece : List Char} {pieces : List (List Char)} {text : List Char}
    (h : Spread (piece :: pieces) text) (gap : List Char) :
    Spread (piece :: pieces) (gap ++ text) := by
  cases h with
  | cons gap' h =>
    rw [← List.append_assoc, ← List.append_assoc]
    exact .cons (gap ++ gap') h

/-- The last piece stands at the end. -/
private theorem singleton_iff {last text : List Char} : Spread [last] text ↔ last <:+ text := by
  constructor
  · intro h
    cases h with
    | cons gap h =>
      cases h
      exact ⟨gap, by simp⟩
  · rintro ⟨gap, rfl⟩
    have h : Spread [last] (gap ++ last ++ []) := .cons gap .nil
    rwa [List.append_nil] at h

end Spread

/-- What fills a pattern is its first piece, and then the other pieces behind gaps. -/
private theorem fills_iff_spread {pattern first text : List Char} {pieces : List (List Char)}
    (hp : pattern.splitOn '*' = first :: pieces) :
    Fills pattern text ↔ ∃ rest, text = first ++ rest ∧ Spread pieces rest := by
  induction pattern generalizing first pieces text with
  | nil =>
    cases hp
    constructor
    · rintro ⟨⟩
      exact ⟨[], rfl, .nil⟩
    · rintro ⟨rest, rfl, ⟨⟩⟩
      exact .nil
  | cons c pattern ih =>
    obtain ⟨first', pieces', hs⟩ := exists_splitOn_eq_cons '*' pattern
    -- by the first character of the pattern
    by_cases hc : c = '*'
    · -- the piece before the star is empty, and what the star takes is the next gap
      subst hc
      rw [splitOn_cons_self, hs] at hp
      cases hp
      constructor
      · intro h
        cases h with
        | char hne => exact absurd rfl hne
        | star filling h =>
          obtain ⟨rest, rfl, hrest⟩ := (ih hs).1 h
          rw [← List.append_assoc]
          exact ⟨_, rfl, .cons filling hrest⟩
      · rintro ⟨rest, rfl, hrest⟩
        cases hrest with
        | cons gap hrest =>
          rw [List.append_assoc]
          exact .star gap ((ih hs).2 ⟨_, rfl, hrest⟩)
    · rw [splitOn_cons_of_ne hc hs] at hp
      cases hp
      constructor
      · intro h
        cases h with
        | char _ h =>
          obtain ⟨rest, rfl, hrest⟩ := (ih hs).1 h
          exact ⟨rest, rfl, hrest⟩
        | star => exact absurd rfl hc
      · rintro ⟨rest, rfl, hrest⟩
        exact .char hc ((ih hs).2 ⟨rest, rfl, hrest⟩)

/-- Taking the leftmost occurrence of every piece but the last misses nothing. -/
theorem piecesMatch_iff {pieces : List (List Char)} {text : List Char} :
    piecesMatch pieces text = true ↔ Spread pieces text := by
  induction pieces generalizing text with
  | nil =>
    rw [piecesMatch, List.isEmpty_iff]
    constructor
    · rintro rfl
      exact .nil
    · rintro ⟨⟩
      rfl
  | cons piece pieces ih =>
    cases pieces with
    | nil => rw [piecesMatch, List.isSuffixOf_iff_suffix, Spread.singleton_iff]
    | cons next pieces =>
      rw [piecesMatch]
      · cases hf : afterFirst piece text with
        | none =>
          simp only [Bool.false_eq_true, false_iff]
          intro h
          cases h with
          | cons gap h => exact afterFirst_none hf gap _ rfl
        | some rest =>
          obtain ⟨⟨gap, hgap⟩, hmost⟩ := afterFirst_some hf
          simp only [ih]
          constructor
          · intro h
            rw [hgap]
            exact .cons gap h
          · intro h
            cases h with
            | cons gap' h =>
              -- the leftmost rest begins with what the gap before `next` gains
              obtain ⟨gained, hgained⟩ := hmost gap' _ rfl
              rw [← hgained]
              exact h.append_gap gained
      · simp

/-- The matcher accepts exactly what fills the pattern. -/
theorem globMatches_iff {pattern text : List Char} :
    globMatches pattern text = true ↔ Fills pattern text := by
  obtain ⟨first, pieces, hp⟩ := exists_splitOn_eq_cons '*' pattern
  rw [fills_iff_spread hp, globMatches, hp]
  -- the first piece has to be a prefix
  cases hd : first.isPrefixOf? text with
  | none =>
    simp only [hd, Bool.false_eq_true, false_iff]
    rintro ⟨rest, h, -⟩
    rw [List.isPrefixOf?_eq_some_iff_append_eq.2 h.symm] at hd
    cases hd
  | some rest =>
    have ht := (List.isPrefixOf?_eq_some_iff_append_eq.1 hd).symm
    simp only [hd, piecesMatch_iff]
    constructor
    · intro h
      exact ⟨rest, ht, h⟩
    · rintro ⟨rest', h, hrest⟩
      rw [ht] at h
      rwa [List.append_cancel_left h]

/-! ## The fixed ends of a pattern -/

/-- Before the first star there is no star. -/
theorem star_not_mem_fixedStart (p : List Char) : '*' ∉ fixedStart p := by
  intro h
  simpa using of_mem_takeWhile h

/-- Behind the last star there is no star. -/
private theorem star_not_mem_fixedEnd (p : List Char) : '*' ∉ fixedEnd p := by
  intro h
  rw [fixedEnd, List.mem_reverse] at h
  simpa using of_mem_takeWhile h

/-- A pattern with a star is its fixed start, a star and more. -/
theorem eq_fixedStart_append {p : List Char} (h : '*' ∈ p) :
    ∃ rest, p = fixedStart p ++ '*' :: rest := by
  induction p with
  | nil => cases h
  | cons c p ih =>
    by_cases hc : c = '*'
    · exact ⟨p, by simp [fixedStart, hc]⟩
    · have hp : '*' ∈ p := (List.mem_cons.1 h).resolve_left (Ne.symm hc)
      obtain ⟨rest, hrest⟩ := ih hp
      refine ⟨rest, ?_⟩
      rw [fixedStart, List.takeWhile_cons_of_pos (by simpa using hc), ← fixedStart,
        List.cons_append, ← hrest]

/-- A pattern with a star is something, a star and its fixed end. -/
private theorem eq_append_fixedEnd {p : List Char} (h : '*' ∈ p) :
    ∃ rest, p = rest ++ '*' :: fixedEnd p := by
  obtain ⟨rest, hrest⟩ := eq_fixedStart_append (List.mem_reverse.2 h)
  refine ⟨rest.reverse, List.reverse_injective ?_⟩
  rw [List.reverse_append, List.reverse_cons, List.reverse_reverse, fixedEnd, List.reverse_reverse,
    List.append_assoc]
  exact hrest

/-- Between the fixed ends of a pattern stands one star, or there are two with something between
them. -/
private theorem eq_one_star_or_two {p : List Char} (h : '*' ∈ p) :
    p = fixedStart p ++ '*' :: fixedEnd p ∨
      ∃ middle, p = fixedStart p ++ '*' :: (middle ++ '*' :: fixedEnd p) := by
  obtain ⟨right, hright⟩ := eq_fixedStart_append h
  obtain ⟨left, hleft⟩ := eq_append_fixedEnd h
  rcases List.append_eq_append_iff.1 (hright.symm.trans hleft) with ⟨m, hm, hm'⟩ | ⟨m, hm, hm'⟩
  · cases m with
    | nil =>
      rw [List.nil_append, List.cons.injEq] at hm'
      exact .inl (hm'.2 ▸ hright)
    | cons d m =>
      rw [List.cons_append, List.cons.injEq] at hm'
      exact .inr ⟨m, hm'.2 ▸ hright⟩
  · cases m with
    | nil =>
      rw [List.nil_append, List.cons.injEq] at hm'
      exact .inl (hm'.2 ▸ hright)
    | cons d m =>
      -- the fixed start would reach over the last star
      rw [List.cons_append, List.cons.injEq] at hm'
      have hstar : '*' ∈ fixedStart p := by
        rw [hm, ← hm'.1]
        simp
      exact absurd hstar (star_not_mem_fixedStart p)

/-- Between the fixed ends of a pattern, every text fills it that contains a certain core. -/
private theorem exists_core {p : List Char} (h : '*' ∈ p) :
    ∃ core, (∀ c ∈ core, c ∈ p ∧ c ≠ '*') ∧
      ∀ u v, Fills p (fixedStart p ++ (u ++ core ++ v) ++ fixedEnd p) := by
  have hstart := Fills.refl (star_not_mem_fixedStart p)
  have hend := Fills.refl (star_not_mem_fixedEnd p)
  rcases eq_one_star_or_two h with hp | ⟨middle, hp⟩
  · -- a single star takes everything
    refine ⟨[], by simp, fun u v => ?_⟩
    have hfill := hstart.append (Fills.star (u ++ [] ++ v) hend)
    rwa [← hp, ← List.append_assoc] at hfill
  · -- the core is what stands between the first star and the last
    refine ⟨middle.filter (· != '*'), fun c hc => ?_, fun u v => ?_⟩
    · obtain ⟨hc, hne⟩ := List.mem_filter.1 hc
      refine ⟨?_, by simpa using hne⟩
      rw [hp]
      simp [hc]
    · have hmiddle := (Fills.literal middle).append (Fills.star v hend)
      have hfill := hstart.append (Fills.star u hmiddle)
      rw [← hp] at hfill
      simpa only [List.append_assoc] using hfill

/-- What fills a pattern begins as it does. -/
private theorem Fills.fixedStart_prefix {p t : List Char} (h : Fills p t) : fixedStart p <+: t := by
  by_cases hp : '*' ∈ p
  · obtain ⟨rest, hrest⟩ := eq_fixedStart_append hp
    rw [hrest, append_left_iff (star_not_mem_fixedStart p)] at h
    obtain ⟨tail, rfl, -⟩ := h
    exact List.prefix_append _ _
  · rw [h.eq_of_not_mem hp]
    exact List.takeWhile_prefix _

/-- What fills a pattern backwards fills the reversed pattern. -/
private theorem Fills.reverse {p t : List Char} (h : Fills p t) : Fills p.reverse t.reverse := by
  induction h with
  | nil => exact .nil
  | char hc _ ih =>
    rw [List.reverse_cons, List.reverse_cons]
    exact ih.append (.char hc .nil)
  | star filling _ ih =>
    rw [List.reverse_cons, List.reverse_append]
    have h := ih.append (.star filling.reverse .nil)
    rwa [List.append_nil] at h

/-- What fills a pattern ends as it does. -/
theorem Fills.fixedEnd_suffix {p t : List Char} (h : Fills p t) : fixedEnd p <:+ t := by
  have h := h.reverse.fixedStart_prefix
  rwa [← List.reverse_suffix, List.reverse_reverse] at h

/-! ## Two segments -/

/-- The fixed parts of the ends of two patterns with a common filling agree. -/
private theorem endsAgree_of_fills {a b t : List Char} (ha : Fills a t) (hb : Fills b t) :
    endsAgree a b = true := by
  simp only [endsAgree, Bool.and_eq_true, Bool.or_eq_true, List.isPrefixOf_iff_prefix,
    List.isSuffixOf_iff_suffix]
  exact ⟨List.prefix_or_prefix_of_prefix ha.fixedStart_prefix hb.fixedStart_prefix,
    List.suffix_or_suffix_of_suffix ha.fixedEnd_suffix hb.fixedEnd_suffix⟩

/-- The longer of two texts of which one leads the other begins with both. -/
private theorem exists_longer_start {s t : List Char} (h : s <+: t ∨ t <+: s) :
    ∃ whole u v, whole = s ++ u ∧ whole = t ++ v ∧ ∀ c ∈ whole, c ∈ s ∨ c ∈ t := by
  rcases h with ⟨u, rfl⟩ | ⟨v, rfl⟩
  · exact ⟨_, u, [], rfl, by simp, fun _ => .inr⟩
  · exact ⟨_, [], v, by simp, rfl, fun _ => .inl⟩

/-- The longer of two texts of which one ends the other ends with both. -/
private theorem exists_longer_end {s t : List Char} (h : s <:+ t ∨ t <:+ s) :
    ∃ whole u v, whole = u ++ s ∧ whole = v ++ t ∧ ∀ c ∈ whole, c ∈ s ∨ c ∈ t := by
  rcases h with ⟨u, rfl⟩ | ⟨v, rfl⟩
  · exact ⟨_, u, [], rfl, by simp, fun _ => .inr⟩
  · exact ⟨_, [], v, by simp, rfl, fun _ => .inl⟩

/-- The fixed start is part of the pattern. -/
private theorem mem_of_mem_fixedStart {c : Char} {p : List Char} (h : c ∈ fixedStart p) : c ∈ p :=
  (List.takeWhile_prefix _).subset h

/-- The fixed end is part of the pattern. -/
private theorem mem_of_mem_fixedEnd {c : Char} {p : List Char} (h : c ∈ fixedEnd p) : c ∈ p := by
  rw [fixedEnd, List.mem_reverse] at h
  exact List.mem_reverse.1 ((List.takeWhile_prefix _).subset h)

/-- Two patterns with stars whose fixed ends agree have a common filling: the longer start, the
cores of both, and the longer end. -/
private theorem exists_fills_of_endsAgree {a b : List Char} (ha : '*' ∈ a) (hb : '*' ∈ b)
    (h : endsAgree a b = true) :
    ∃ t, (∀ c ∈ t, c ≠ '*' ∧ (c ∈ a ∨ c ∈ b)) ∧ Fills a t ∧ Fills b t := by
  simp only [endsAgree, Bool.and_eq_true, Bool.or_eq_true, List.isPrefixOf_iff_prefix,
    List.isSuffixOf_iff_suffix] at h
  obtain ⟨start, u, v, hu, hv, hstart⟩ := exists_longer_start h.1
  obtain ⟨tail, x, y, hx, hy, htail⟩ := exists_longer_end h.2
  obtain ⟨coreA, hcoreA, hfillA⟩ := exists_core ha
  obtain ⟨coreB, hcoreB, hfillB⟩ := exists_core hb
  -- a star of `b` takes the core of `a`, and a star of `a` that of `b`
  refine ⟨start ++ (coreA ++ coreB) ++ tail, fun c hc => ?_, ?_, ?_⟩
  · have hstar {p : List Char} (h : c ∈ fixedStart p ∨ c ∈ fixedEnd p) : c ≠ '*' := by
      rintro rfl
      exact h.elim (star_not_mem_fixedStart p) (star_not_mem_fixedEnd p)
    rcases List.mem_append.1 hc with hc | hc
    · rcases List.mem_append.1 hc with hc | hc
      · rcases hstart c hc with hc | hc
        · exact ⟨hstar (.inl hc), .inl (mem_of_mem_fixedStart hc)⟩
        · exact ⟨hstar (.inl hc), .inr (mem_of_mem_fixedStart hc)⟩
      · rcases List.mem_append.1 hc with hc | hc
        · exact ⟨(hcoreA c hc).2, .inl (hcoreA c hc).1⟩
        · exact ⟨(hcoreB c hc).2, .inr (hcoreB c hc).1⟩
    · rcases htail c hc with hc | hc
      · exact ⟨hstar (.inr hc), .inl (mem_of_mem_fixedEnd hc)⟩
      · exact ⟨hstar (.inr hc), .inr (mem_of_mem_fixedEnd hc)⟩
  · have h := hfillA u (coreB ++ x)
    rw [hu, hx]
    simpa only [List.append_assoc] using h
  · have h := hfillB (v ++ coreA) y
    rw [hv, hy]
    simpa only [List.append_assoc] using h

/-- Two segments with a common filling meet. -/
theorem segmentsMeet_of_fills {a b : Segment} {t : List Char} (ha : Fills a t) (hb : Fills b t) :
    segmentsMeet a b = true := by
  rw [segmentsMeet]
  -- a segment without stars is filled by itself only
  cases hsa : a.contains '*' with
  | false =>
    have hta := ha.eq_of_not_mem (by simpa using hsa)
    cases hsb : b.contains '*' with
    | false =>
      have htb := hb.eq_of_not_mem (by simpa using hsb)
      simp [← hta, ← htb]
    | true => exact globMatches_iff.2 (hta ▸ hb)
  | true =>
    cases hsb : b.contains '*' with
    | false =>
      have htb := hb.eq_of_not_mem (by simpa using hsb)
      exact globMatches_iff.2 (htb ▸ ha)
    | true => exact endsAgree_of_fills ha hb

/-- Two segments that meet have a common filling without stars, made of their own characters. -/
theorem exists_fills_of_segmentsMeet {a b : Segment} (h : segmentsMeet a b = true) :
    ∃ t, (∀ c ∈ t, c ≠ '*' ∧ (c ∈ a ∨ c ∈ b)) ∧ Fills a t ∧ Fills b t := by
  have hplain {p : Segment} (hp : '*' ∉ p) : ∀ c ∈ p, c ≠ '*' := fun c hc h => hp (h ▸ hc)
  rw [segmentsMeet] at h
  -- a segment without stars is itself what both have in common
  cases hsa : a.contains '*' with
  | false =>
    have ha : '*' ∉ a := by simpa using hsa
    refine ⟨a, fun c hc => ⟨hplain ha c hc, .inl hc⟩, .refl ha, ?_⟩
    cases hsb : b.contains '*' with
    | false =>
      simp only [hsa, hsb, beq_iff_eq] at h
      exact h ▸ .refl ha
    | true =>
      simp only [hsa, hsb] at h
      exact globMatches_iff.1 h
  | true =>
    cases hsb : b.contains '*' with
    | false =>
      have hb : '*' ∉ b := by simpa using hsb
      simp only [hsa, hsb] at h
      exact ⟨b, fun c hc => ⟨hplain hb c hc, .inr hc⟩, globMatches_iff.1 h, .refl hb⟩
    | true =>
      simp only [hsa, hsb] at h
      exact exists_fills_of_endsAgree (by simpa using hsa) (by simpa using hsb) h

end PathSpace.Wildcard
