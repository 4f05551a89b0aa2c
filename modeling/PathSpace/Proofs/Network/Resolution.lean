import PathSpace.Network.Workspace
import PathSpace.Proofs.Address.Path
import PathSpace.Proofs.Address.Selector
import PathSpace.Proofs.Address.Wildcard
/-!
# Where a text leads

A text that is a path can be written to, and the same text can be asked for as a selector.  Both
lead to the same path if the text is relative.  An absolute text leads there as a path in its
canonical form, but as a selector as it is.

## Key results

- `exists_selector`: every text of a path is the text of a selector
- `absoluteSelector_meets_iff`: which paths such a selector reaches
-/

namespace PathSpace.Workspace

variable {t : String} {p : Path}

/-- A text that is read as a path is also read as a selector, all of it the path expression. -/
theorem exists_selector (h : Path.parse t = .ok p) :
    ∃ s : Selector, Selector.parse t = .ok s ∧ s.parts = { path := t.toList } := by
  obtain ⟨hne, hallowed, -⟩ := Path.parse_eq_ok_iff.1 h
  have hgrammatical : Selector.Parts.Grammatical { path := t.toList } :=
    { path_ne_nil := hne
      path_chars := fun c hc => Selector.isPathChar_of_not_forbidden (hallowed c hc)
      predicate_chars := by simp
      properties_oneLine := by simp
      fragment_oneLine := by simp
      properties_longest := by simp }
  -- without other parts the text is the path expression alone
  have htext : Selector.Parts.text { path := t.toList } = t.toList := by
    simp [Selector.Parts.text, Selector.Parts.optionalText, Selector.Parts.fragmentText]
  have hread := hgrammatical.parts?_text
  rw [htext] at hread
  exact ⟨⟨_, hgrammatical⟩, Selector.parse_eq_ok_iff.2 hread, rfl⟩

private theorem isRelative_iff_of_parse (h : Path.parse t = .ok p) :
    p.isRelative = true ↔ t.toList.head? ≠ some '/' := by
  obtain ⟨-, -, htext⟩ := Path.parse_eq_ok_iff.1 h
  rw [Path.isRelative, htext, Path.head?_canonical, bne_iff_ne]

/-- An expression without stars reaches no path but the one that it spells. -/
private theorem meet_iff_of_plain {e : String} (he : '*' ∉ e.toList) (r : Path) :
    Wildcard.meet e r.text = true ↔ r.text = e := by
  rw [Wildcard.meet_concrete_iff r.star_not_mem, Wildcard.standsFor_concrete_iff he]

/-- A text that is a path leads to one path `q` when it is written to, and the selector with the
same text reaches `q` and no other path if the text is relative or canonical.  Otherwise it
reaches no path at all. -/
theorem absoluteSelector_meets_iff (w : Workspace) (h : Path.parse t = .ok p) :
    ∃ s q, Selector.parse t = .ok s ∧ w.absolutePath p = .ok q ∧
      ((w.absoluteSelector s).path = q.text ↔ p.isRelative = true ∨ t = p.text) ∧
      ∀ r : Path, Wildcard.meet (w.absoluteSelector s).path r.text = true ↔
        r = q ∧ (p.isRelative = true ∨ t = p.text) := by
  obtain ⟨hne, hallowed, htext⟩ := Path.parse_eq_ok_iff.1 h
  obtain ⟨s, hs, hparts⟩ := exists_selector h
  have hrelative : s.isRelative = p.isRelative := by
    rw [Bool.eq_iff_iff, isRelative_iff_of_parse h, Selector.isRelative, hparts, bne_iff_ne]
  by_cases hp : p.isRelative = true
  · obtain ⟨q, hq, hqtext⟩ := p.exists_under w.root
    -- the selector is made canonical with the root, the path before and after it
    have hpath : (w.absoluteSelector s).path = q.text := by
      apply String.toList_injective
      rw [absoluteSelector, if_pos (hrelative.trans hp), Selector.path, String.toList_ofList,
        hqtext, htext, Path.canonical_append_canonical]
      simp only [Selector.under, hparts]
    refine ⟨s, q, hs, by rw [absolutePath, if_pos hp, hq], by simp [hpath, hp], fun r => ?_⟩
    rw [hpath, meet_iff_of_plain q.star_not_mem]
    exact ⟨fun hr => ⟨Path.ext hr, .inl hp⟩, fun hr => congrArg Path.text hr.1⟩
  · -- an absolute selector stays as it is
    have hpath : (w.absoluteSelector s).path = t := by
      rw [absoluteSelector, if_neg (by rw [hrelative]; exact hp), Selector.path, hparts,
        String.ofList_toList]
    have hplain : '*' ∉ t.toList := fun hmem => hallowed '*' hmem (by decide)
    refine ⟨s, p, hs, by rw [absolutePath, if_neg hp], by simp [hpath, hp], fun r => ?_⟩
    rw [hpath, meet_iff_of_plain hplain]
    constructor
    · intro hr
      -- a path with this text shows that the text is canonical
      have hcanonical : t = p.text := by
        apply String.toList_injective
        rw [htext, ← hr, r.isCanonical]
      exact ⟨Path.ext (hr.trans hcanonical), .inr hcanonical⟩
    · rintro ⟨rfl, hrel | hcanonical⟩
      · exact absurd hrel hp
      · exact hcanonical.symm

/-! ### A relative text and an absolute one -/

/-- The path `c/d`. -/
def relativePath : Path := ⟨"c/d", by decide, by simp [Path.forbidden], by decide⟩

/-- The path `/c`. -/
def absolutePathC : Path := ⟨"/c", by decide, by simp [Path.forbidden], by decide⟩

/-- A workspace below `/c`. -/
def workspaceC : Workspace := { root := absolutePathC, session := 0 }

/-- A relative text may have slashes that its path does not have. -/
theorem relative_text_meets_its_path :
    Path.parse "c//d/" = .ok relativePath ∧
      ∃ s q, Selector.parse "c//d/" = .ok s ∧ workspaceC.absolutePath relativePath = .ok q ∧
        (workspaceC.absoluteSelector s).path = q.text ∧
        Wildcard.meet (workspaceC.absoluteSelector s).path q.text = true := by
  have hparse : Path.parse "c//d/" = .ok relativePath :=
    Path.parse_eq_ok_iff.2 ⟨by decide, by simp [Path.forbidden], by decide⟩
  obtain ⟨s, q, hs, hq, hpath, hmeets⟩ := absoluteSelector_meets_iff workspaceC hparse
  have hrelative : relativePath.isRelative = true := by decide
  exact ⟨hparse, s, q, hs, hq, hpath.2 (.inl hrelative), (hmeets q).2 ⟨rfl, .inl hrelative⟩⟩

/-- An absolute text with a slash at its end does not lead where its path leads. -/
theorem absolute_text_misses_its_path :
    ¬ ∀ (w : Workspace) (t : String) (p q : Path) (s : Selector), Path.parse t = .ok p →
      Selector.parse t = .ok s → w.absolutePath p = .ok q →
        (w.absoluteSelector s).path = q.text := by
  intro h
  have hparse : Path.parse "/c/" = .ok absolutePathC :=
    Path.parse_eq_ok_iff.2 ⟨by decide, by simp [Path.forbidden], by decide⟩
  obtain ⟨s, hs, hparts⟩ := exists_selector hparse
  have hpath : (workspaceC.absoluteSelector s).path = "/c/" := by
    have habsolute : s.isRelative = false := by
      rw [Selector.isRelative, hparts]
      decide
    rw [absoluteSelector, habsolute, if_neg (by simp), Selector.path, hparts, String.ofList_toList]
  have heq := h workspaceC "/c/" absolutePathC absolutePathC s hparse hs rfl
  rw [hpath] at heq
  exact absurd heq (by decide)

end PathSpace.Workspace
