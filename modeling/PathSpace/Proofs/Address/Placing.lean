import PathSpace.Proofs.Address.Segments
/-!
# Paths below paths

Placing a path below a root puts the segments of the root in front of its own, and nothing else
happens to them.  So several roots can be put in front one by one or all at once, and the path `/`,
which has no segments, changes no absolute path.

## Key results

- `segments_append_slash`: the segments of two texts with a slash between them
- `eq_iff_segments`: which paths are the same
- `exists_placed`: what a path below a root is
- `under_segments_assoc`: a path below a root, below another root, and below `/`
-/

namespace PathSpace.Path

open Text

/-- The path `/`. -/
def top : Path := ⟨"/", by simp, by simp [forbidden], by simp [canonical, collapse]⟩

/-- The segments of two texts with a slash between them. -/
theorem segments_append_slash (root text : List Char) :
    segments (root ++ '/' :: text) = segments root ++ segments text := by
  rw [segments, List.splitOn_append_cons_self, List.filter_append]
  rfl

@[simp] theorem segments_top : segments top.text.toList = [] := by
  decide

@[simp] theorem isRelative_top : top.isRelative = false := by
  simp [top, isRelative]

private theorem isRelative_eq_iff {p q : Path} :
    p.isRelative = q.isRelative ↔
      (p.text.toList.head? = some '/' ↔ q.text.toList.head? = some '/') := by
  rw [Bool.eq_iff_iff, isRelative, isRelative, bne_iff_ne, bne_iff_ne, not_iff_not]

/-- A path is told by its segments, and by whether it is relative. -/
theorem eq_iff_segments {p q : Path} :
    p = q ↔ p.isRelative = q.isRelative ∧ segments p.text.toList = segments q.text.toList := by
  rw [eq_iff_of_parse (parse_text p) (parse_text q), isRelative_eq_iff]

/-- A path below a root starts as the root does, and has the segments of the root in front of its
own. -/
theorem exists_placed (p root : Path) :
    ∃ q, p.under root = .ok q ∧ q.isRelative = root.isRelative ∧
      segments q.text.toList = segments root.text.toList ++ segments p.text.toList := by
  obtain ⟨q, hq, htext⟩ := p.exists_under root
  refine ⟨q, hq, ?_, ?_⟩
  · rw [isRelative_eq_iff, htext, head?_canonical, List.head?_append_of_ne_nil _ root.nonempty]
  · rw [htext, segments_canonical, segments_append_slash]

/-- Every path can be placed below every root, and is then as absolute as the root, with the
segments of the root in front of its own.  Placing a path below `q` and the result below `r` is
placing it below what `q` becomes below `r`.  Below `/` absolute paths stay what they are, and no
others do. -/
theorem under_segments_assoc :
    (∀ p root : Path, ∃ q, p.under root = .ok q ∧ q.isRelative = root.isRelative ∧
      segments q.text.toList = segments root.text.toList ++ segments p.text.toList) ∧
    (∀ p q r : Path, ∃ pq qr pqr, p.under q = .ok pq ∧ q.under r = .ok qr ∧
      pq.under r = .ok pqr ∧ p.under qr = .ok pqr) ∧
    ∀ p : Path, p.under top = .ok p ↔ p.isRelative = false := by
  refine ⟨exists_placed, fun p q r => ?_, fun p => ?_⟩
  · obtain ⟨pq, hpq, -, hpqSegments⟩ := exists_placed p q
    obtain ⟨qr, hqr, hqrRelative, hqrSegments⟩ := exists_placed q r
    obtain ⟨left, hleft, hleftRelative, hleftSegments⟩ := exists_placed pq r
    obtain ⟨right, hright, hrightRelative, hrightSegments⟩ := exists_placed p qr
    -- both have the segments of `r`, `q` and `p` in this order
    have heq : left = right := by
      rw [eq_iff_segments, hleftRelative, hrightRelative, hqrRelative, hleftSegments,
        hrightSegments, hpqSegments, hqrSegments, List.append_assoc]
      exact ⟨rfl, rfl⟩
    exact ⟨pq, qr, left, hpq, hqr, hleft, heq ▸ hright⟩
  · obtain ⟨q, hq, hrelative, hsegments⟩ := exists_placed p top
    rw [isRelative_top] at hrelative
    rw [segments_top, List.nil_append] at hsegments
    rw [hq, Except.ok.injEq, eq_iff_segments, hrelative, hsegments, eq_comm (a := false)]
    exact and_iff_left rfl

end PathSpace.Path
