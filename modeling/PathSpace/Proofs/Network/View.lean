import PathSpace.Proofs.Network.Resolution
/-!
# What a workspace sees

Relative paths and selectors are put below the root of a workspace.  The segments of what comes
out are those of the root, followed by those of what was put there.  So the paths below the root
are seen as they are seen from the root, and no other paths are seen.

## Key results

- `Path.segments_below`: the segments of an expression that is put below a path
- `Selector.meet_under_iff`: which paths a selector reaches that is put below a path
- `Workspace.view_faithful_confined`: what a selector of a workspace reaches
-/

namespace PathSpace

open Text

/-! ## Below a root -/

/-- The segments that all paths below a path begin with: its own ones, and for `/` only the empty
one in front of the slash. -/
def Path.stem (root : Path) : List Wildcard.Segment :=
  if root.text.toList = ['/'] then [[]] else Wildcard.segments root.text

private theorem Path.star_not_mem_stem (root : Path) : ∀ s ∈ root.stem, '*' ∉ s := by
  intro s hs hstar
  rw [stem] at hs
  split at hs
  · rw [List.mem_singleton.1 hs] at hstar
    cases hstar
  · exact root.star_not_mem (mem_of_mem_splitOn hs hstar).2

/-- An expression below a root has the segments of the root in front of its own. -/
theorem Path.segments_below (root : Path) {e : List Char} (hcanonical : canonical e = e)
    (hne : e ≠ []) (hslash : e.head? ≠ some '/') :
    (canonical (root.text.toList ++ '/' :: e)).splitOn '/' = root.stem ++ e.splitOn '/' := by
  -- no slash is taken away where the two meet, except the one of the root `/`
  have hbelow := canonical_append_slash root.text.toList e
  rw [collapse_false_of_canonical root.isCanonical,
    collapse_true_of_canonical hcanonical hne hslash, if_neg (by simp)] at hbelow
  rw [hbelow, List.splitOn_append_cons_self, stem]
  split <;> rfl

/-- The segments of a relative path under a root come behind those of the root. -/
private theorem Path.segments_of_under {p root q : Path} (hrel : p.isRelative = true)
    (hq : p.under root = .ok q) :
    Wildcard.segments q.text = root.stem ++ Wildcard.segments p.text := by
  obtain ⟨q', hq', htext⟩ := p.exists_under root
  cases hq.symm.trans hq'
  rw [Wildcard.segments, htext]
  exact root.segments_below p.isCanonical p.nonempty (bne_iff_ne.1 hrel)

namespace Selector

variable {s : Selector}

private theorem segments_path (s : Selector) :
    Wildcard.segments s.path = s.parts.path.splitOn '/' := by
  rw [Wildcard.segments, path, String.toList_ofList]

/-- The segments of a relative selector under a root come behind those of the root. -/
private theorem segments_path_under (hrel : s.isRelative = true)
    (hcanonical : Path.canonical s.parts.path = s.parts.path) (root : Path) :
    Wildcard.segments (s.under root).path = root.stem ++ Wildcard.segments s.path := by
  rw [segments_path, segments_path]
  exact root.segments_below hcanonical s.grammatical.path_ne_nil (bne_iff_ne.1 hrel)

/-- A selector below a root reaches a path if the path begins with the segments of the root and the
selector covers the others. -/
theorem meet_under_iff (hrel : s.isRelative = true)
    (hcanonical : Path.canonical s.parts.path = s.parts.path) (root q : Path) :
    Wildcard.meet (s.under root).path q.text = true ↔
      ∃ rest, Wildcard.segments q.text = root.stem ++ rest ∧
        Wildcard.Covers (Wildcard.segments s.path) rest := by
  rw [Wildcard.meet_concrete_iff q.star_not_mem, Wildcard.StandsFor,
    segments_path_under hrel hcanonical, Wildcard.Covers.append_left_iff root.star_not_mem_stem]

end Selector

namespace Workspace

/-- A selector of a workspace reaches just those paths that begin with the segments of the root and
go on with segments that it covers.  So it reaches a path of the workspace if and only if it
reaches it without the root, and it reaches nothing that is not below the root. -/
theorem view_faithful_confined (w : Workspace) {s : Selector} (hrel : s.isRelative = true)
    (hcanonical : Path.canonical s.parts.path = s.parts.path) :
    (∀ q : Path, Wildcard.meet (w.absoluteSelector s).path q.text = true ↔
      ∃ rest, Wildcard.segments q.text = w.root.stem ++ rest ∧
        Wildcard.Covers (Wildcard.segments s.path) rest) ∧
    (∀ p : Path, p.isRelative = true → ∃ q, w.absolutePath p = .ok q ∧
      Wildcard.meet (w.absoluteSelector s).path q.text = Wildcard.meet s.path p.text) ∧
    ∀ q : Path, Wildcard.meet (w.absoluteSelector s).path q.text = true →
      w.root.stem <+: Wildcard.segments q.text := by
  have hbelow : w.absoluteSelector s = s.under w.root := by rw [absoluteSelector, if_pos hrel]
  rw [hbelow]
  have hmeet := Selector.meet_under_iff hrel hcanonical w.root
  refine ⟨hmeet, fun p hp => ?_, fun q hq => ?_⟩
  · obtain ⟨q, hq, -⟩ := p.exists_under w.root
    refine ⟨q, by rw [absolutePath, if_pos hp, hq], ?_⟩
    rw [Bool.eq_iff_iff, hmeet, Path.segments_of_under hp hq,
      Wildcard.meet_concrete_iff p.star_not_mem, Wildcard.StandsFor]
    constructor
    · rintro ⟨rest, heq, hcovers⟩
      -- both rests are what follows the same root
      rwa [List.append_cancel_left heq]
    · intro hcovers
      exact ⟨_, rfl, hcovers⟩
  · obtain ⟨rest, heq, -⟩ := (hmeet q).1 hq
    exact ⟨rest, heq.symm⟩

/-! ### A root and a selector that begin alike -/

/-- The selector `c*/**`. -/
def likeRoot : Selector where
  parts := { path := "c*/**".toList }
  grammatical :=
    { path_ne_nil := by decide
      path_chars := by simp [Selector.isPathChar]
      predicate_chars := by simp
      properties_oneLine := by simp
      fragment_oneLine := by simp
      properties_longest := by simp }

/-- The path `/c/cd/e`. -/
def pathBelowC : Path := ⟨"/c/cd/e", by decide, by simp [Path.forbidden], by decide⟩

/-- The path `/cd/e`. -/
def pathBesideC : Path := ⟨"/cd/e", by decide, by simp [Path.forbidden], by decide⟩

/-- Below `/c` the selector `c*/**` reaches `/c/cd/e`, but not `/cd/e`. -/
theorem view_of_workspaceC :
    likeRoot.isRelative = true ∧ Path.canonical likeRoot.parts.path = likeRoot.parts.path ∧
      Wildcard.meet (workspaceC.absoluteSelector likeRoot).path pathBelowC.text = true ∧
      Wildcard.meet (workspaceC.absoluteSelector likeRoot).path pathBesideC.text = false := by
  have hrel : likeRoot.isRelative = true := by decide
  have hcanonical : Path.canonical likeRoot.parts.path = likeRoot.parts.path := by decide
  obtain ⟨hreaches, -, hconfined⟩ := view_faithful_confined workspaceC hrel hcanonical
  refine ⟨hrel, hcanonical, (hreaches pathBelowC).2 ?_, ?_⟩
  · refine ⟨["cd".toList, "e".toList], by decide, ?_⟩
    exact .one (by decide) (.char (by decide) (.star ['d'] .nil)) (.any ["e".toList] .nil)
  · rw [Bool.eq_false_iff]
    intro hreached
    exact absurd (hconfined pathBesideC hreached) (by decide)

end Workspace

end PathSpace
