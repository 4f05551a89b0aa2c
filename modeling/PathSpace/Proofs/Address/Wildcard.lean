import PathSpace.Proofs.Address.Glob
/-!
# Expressions that stand for a common path

`Covers e c` aligns the segments of an expression with texts: `**` takes any number of them and
every other segment one.  An expression stands for a path if its segments cover those of the
path.  The table of `listsMeet` decides whether two expressions stand for a common concrete
path, that is one without stars.

## Key results

- `listsMeet_of_covers`, `exists_covers_of_listsMeet`: the table finds a common list of texts
  exactly when there is one
- `meet_concrete_iff`: on a concrete path, `meet` decides `StandsFor`
- `meet_iff_common_path`: two expressions meet iff they stand for a common concrete path
-/

namespace PathSpace.Wildcard

open Text

/-- The texts can be aligned in order with the segments. -/
inductive Covers : (expression : List Segment) → (texts : List (List Char)) → Prop
  | nil : Covers [] []
  | any (taken : List (List Char)) {e : List Segment} {c : List (List Char)} (h : Covers e c) :
      Covers (anyNumber :: e) (taken ++ c)
  | one {s : Segment} {t : List Char} {e : List Segment} {c : List (List Char)}
      (hs : s ≠ anyNumber) (hst : Fills s t) (h : Covers e c) : Covers (s :: e) (t :: c)

/-- The expression stands for the path. -/
def StandsFor (expression path : String) : Prop := Covers (segments expression) (segments path)

namespace Covers

/-- Any number of segments may be one more. -/
private theorem any_cons {e : List Segment} {c : List (List Char)} (t : List Char)
    (h : Covers (anyNumber :: e) c) : Covers (anyNumber :: e) (t :: c) := by
  cases h with
  | any taken h => exact .any (t :: taken) h
  | one hs => exact absurd rfl hs

/-- `**` takes nothing, or it takes the first text and goes on. -/
private theorem any_cases {e : List Segment} {c : List (List Char)}
    (h : Covers (anyNumber :: e) c) :
    Covers e c ∨ ∃ t c', c = t :: c' ∧ Covers (anyNumber :: e) c' := by
  cases h with
  | any taken h =>
    cases taken with
    | nil => exact .inl h
    | cons t taken => exact .inr ⟨t, _, rfl, .any taken h⟩
  | one hs => exact absurd rfl hs

/-- A segment that does not stand for any number of them takes one. -/
private theorem one_cases {s : Segment} {e : List Segment} {c : List (List Char)}
    (hs : s ≠ anyNumber)
    (h : Covers (s :: e) c) : ∃ t c', c = t :: c' ∧ Fills s t ∧ Covers e c' := by
  cases h with
  | any => exact absurd rfl hs
  | one _ hst h => exact ⟨_, _, rfl, hst, h⟩

/-- Segments without stars take just themselves, and the others take what follows. -/
theorem append_left_iff {a e : List Segment} {c : List (List Char)} (ha : ∀ s ∈ a, '*' ∉ s) :
    Covers (a ++ e) c ↔ ∃ rest, c = a ++ rest ∧ Covers e rest := by
  have hne {s : Segment} (hs : '*' ∉ s) : s ≠ anyNumber := by
    rintro rfl
    simp [anyNumber] at hs
  -- without a star a segment takes what is equal to it
  induction a generalizing c with
  | nil => exact ⟨fun h => ⟨c, rfl, h⟩, fun ⟨rest, hc, h⟩ => hc ▸ h⟩
  | cons s a ih =>
    have hs := ha s List.mem_cons_self
    have ih := fun {c} => ih (c := c) fun s hs => ha s (List.mem_cons_of_mem _ hs)
    constructor
    · intro h
      obtain ⟨t, c', rfl, hst, h⟩ := h.one_cases (hne hs)
      obtain ⟨rest, rfl, hrest⟩ := ih.1 h
      exact ⟨rest, by rw [hst.eq_of_not_mem hs, List.cons_append], hrest⟩
    · rintro ⟨rest, rfl, h⟩
      exact .one (hne hs) (.refl hs) (ih.2 ⟨rest, rfl, h⟩)

/-- Segments without stars cover just themselves. -/
private theorem iff_eq_of_plain {e : List Segment} {c : List (List Char)} (he : ∀ s ∈ e, '*' ∉ s) :
    Covers e c ↔ c = e := by
  have happend := append_left_iff (e := []) (c := c) he
  rw [List.append_nil] at happend
  rw [happend]
  constructor
  · rintro ⟨rest, rfl, h⟩
    cases h
    exact List.append_nil e
  · rintro rfl
    exact ⟨[], (List.append_nil c).symm, .nil⟩

end Covers

/-! ## The table

One row of the table holds the answers for all suffixes of `b`, so the row of a suffix is the
tail of the row. -/

/-- The row of `a`. -/
def row (a b : List Segment) : List Bool := a.foldr (fun x row => nextRow x b row) (emptyRow b)

/-- Behind the first entry of a row there is the row of the rest. -/
private theorem tail_row (a : List Segment) (y : Segment) (b : List Segment) :
    (row a (y :: b)).tail = row a b := by
  induction a with
  | nil => rfl
  | cons x a ih =>
    show nextRow x b (row a (y :: b)).tail = row (x :: a) b
    rw [ih]
    rfl

@[simp]
theorem listsMeet_nil_nil : listsMeet [] [] = true := rfl

/-- Nothing meets what stands for any number of segments. -/
@[simp]
theorem listsMeet_nil_cons (y : Segment) (b : List Segment) :
    listsMeet [] (y :: b) = (y == anyNumber && listsMeet [] b) := rfl

@[simp]
theorem listsMeet_cons_nil (x : Segment) (a : List Segment) :
    listsMeet (x :: a) [] = (x == anyNumber && listsMeet a []) := rfl

/-- `**` on either side takes nothing or a segment of the other side; two other segments have
to meet. -/
private theorem listsMeet_cons_cons (x y : Segment) (a b : List Segment) :
    listsMeet (x :: a) (y :: b) =
      if x == anyNumber || y == anyNumber then listsMeet a (y :: b) || listsMeet (x :: a) b
      else segmentsMeet x y && listsMeet a b := by
  show (nextRow x (y :: b) (row a (y :: b))).headD false = _
  rw [nextRow, tail_row]
  rfl

/-! ## What the table decides -/

/-- What two lists of segments both cover, the table finds. -/
theorem listsMeet_of_covers {a b : List Segment} {c : List (List Char)} (ha : Covers a c)
    (hb : Covers b c) : listsMeet a b = true := by
  -- a `**` that takes nothing goes, and one that takes the first text stays but leaves less to take
  match a, b with
  | [], [] => rfl
  | [], y :: b =>
    cases ha
    by_cases hy : y = anyNumber
    · subst hy
      have hb := hb.any_cases.resolve_right (by simp)
      simp [listsMeet_of_covers .nil hb]
    · obtain ⟨t, c', hc, -⟩ := hb.one_cases hy
      cases hc
  | x :: a, [] =>
    cases hb
    by_cases hx : x = anyNumber
    · subst hx
      have ha := ha.any_cases.resolve_right (by simp)
      simp [listsMeet_of_covers ha .nil]
    · obtain ⟨t, c', hc, -⟩ := ha.one_cases hx
      cases hc
  | x :: a, y :: b =>
    rw [listsMeet_cons_cons]
    by_cases hx : x = anyNumber
    · subst hx
      rw [if_pos (by simp), Bool.or_eq_true]
      obtain ha₁ | ⟨t, c', rfl, ha₁⟩ := ha.any_cases
      · exact .inl (listsMeet_of_covers ha₁ hb)
      · by_cases hy : y = anyNumber
        · subst hy
          obtain hb₁ | ⟨t', c'', hc, hb₁⟩ := hb.any_cases
          · exact .inr (listsMeet_of_covers ha hb₁)
          · -- both take the first text, so they also agree without it
            cases hc
            have h := listsMeet_of_covers ha₁ hb₁
            rwa [listsMeet_cons_cons, if_pos (by simp), Bool.or_eq_true] at h
        · obtain ⟨t', c'', hc, -, hb₁⟩ := hb.one_cases hy
          cases hc
          exact .inr (listsMeet_of_covers ha₁ hb₁)
    · by_cases hy : y = anyNumber
      · subst hy
        rw [if_pos (by simp), Bool.or_eq_true]
        obtain hb₁ | ⟨t, c', rfl, hb₁⟩ := hb.any_cases
        · exact .inr (listsMeet_of_covers ha hb₁)
        · obtain ⟨t', c'', hc, -, ha₁⟩ := ha.one_cases hx
          cases hc
          exact .inl (listsMeet_of_covers ha₁ hb₁)
      · rw [if_neg (by simp [hx, hy]), Bool.and_eq_true]
        obtain ⟨t, c', rfl, hxt, ha⟩ := ha.one_cases hx
        obtain ⟨t', c'', hc, hyt, hb⟩ := hb.one_cases hy
        cases hc
        exact ⟨segmentsMeet_of_fills hxt hyt, listsMeet_of_covers ha hb⟩
termination_by a.length + b.length + c.length

/-- A text that can stand in a concrete path: it has neither stars nor slashes. -/
def IsConcrete (t : List Char) : Prop := '*' ∉ t ∧ '/' ∉ t

/-- A segment has a filling that can stand in a concrete path. -/
private theorem exists_concrete_filling {s : Segment} (hs : '/' ∉ s) :
    ∃ t, IsConcrete t ∧ Fills s t := by
  refine ⟨s.filter (· != '*'), ⟨by simp, fun h => hs (List.mem_filter.1 h).1⟩, .literal s⟩

/-- There is a list of concrete texts that both cover. -/
def HaveCommon (a b : List Segment) : Prop :=
  ∃ c, (∀ t ∈ c, IsConcrete t) ∧ Covers a c ∧ Covers b c

namespace HaveCommon

variable {a b : List Segment} {x y : Segment}

/-- What two lists have in common the other way round they have in common. -/
theorem symm : HaveCommon a b → HaveCommon b a := fun ⟨c, hc, hac, hbc⟩ => ⟨c, hc, hbc, hac⟩

/-- `**` takes nothing. -/
private theorem any_left : HaveCommon a b → HaveCommon (anyNumber :: a) b :=
  fun ⟨c, hc, hac, hbc⟩ => ⟨c, hc, .any [] hac, hbc⟩

/-- `**` takes what some segment is filled with. -/
private theorem take_left (hx : '/' ∉ x) (h : HaveCommon a (anyNumber :: b)) :
    HaveCommon (x :: a) (anyNumber :: b) := by
  by_cases hany : x = anyNumber
  · exact hany ▸ h.any_left
  · obtain ⟨c, hc, hac, hbc⟩ := h
    obtain ⟨t, ht, hxt⟩ := exists_concrete_filling hx
    exact ⟨t :: c, List.forall_mem_cons.2 ⟨ht, hc⟩, .one hany hxt hac, hbc.any_cons t⟩

/-- Two segments that meet are filled with the same text. -/
theorem cons (hx : '/' ∉ x) (hy : '/' ∉ y) (hxany : x ≠ anyNumber) (hyany : y ≠ anyNumber)
    (hxy : segmentsMeet x y = true) (h : HaveCommon a b) : HaveCommon (x :: a) (y :: b) := by
  obtain ⟨c, hc, hac, hbc⟩ := h
  obtain ⟨t, ht, hxt, hyt⟩ := exists_fills_of_segmentsMeet hxy
  have hconcrete : IsConcrete t := by
    refine ⟨fun hm => (ht _ hm).1 rfl, fun hm => ?_⟩
    rcases (ht _ hm).2 with hm | hm
    · exact hx hm
    · exact hy hm
  exact ⟨t :: c, List.forall_mem_cons.2 ⟨hconcrete, hc⟩, .one hxany hxt hac, .one hyany hyt hbc⟩

end HaveCommon

/-- If the table says so, there is a list of concrete texts that both cover. -/
theorem exists_covers_of_listsMeet {a b : List Segment} (ha : ∀ s ∈ a, '/' ∉ s)
    (hb : ∀ s ∈ b, '/' ∉ s) (h : listsMeet a b = true) : HaveCommon a b := by
  -- the recursion is that of the table, one segment less on one side or on both
  match a, b with
  | [], [] => exact ⟨[], by simp, .nil, .nil⟩
  | [], y :: b =>
    obtain ⟨-, hb'⟩ := List.forall_mem_cons.1 hb
    simp only [listsMeet_nil_cons, Bool.and_eq_true, beq_iff_eq] at h
    obtain ⟨rfl, h⟩ := h
    exact (exists_covers_of_listsMeet ha hb' h).symm.any_left.symm
  | x :: a, [] =>
    obtain ⟨-, ha'⟩ := List.forall_mem_cons.1 ha
    simp only [listsMeet_cons_nil, Bool.and_eq_true, beq_iff_eq] at h
    obtain ⟨rfl, h⟩ := h
    exact (exists_covers_of_listsMeet ha' hb h).any_left
  | x :: a, y :: b =>
    obtain ⟨hx, ha'⟩ := List.forall_mem_cons.1 ha
    obtain ⟨hy, hb'⟩ := List.forall_mem_cons.1 hb
    rw [listsMeet_cons_cons] at h
    split at h
    · next hany =>
      rw [Bool.or_eq_true, beq_iff_eq, beq_iff_eq] at hany
      rcases (Bool.or_eq_true _ _).mp h with h | h
      · -- the table leaves the first segment of `a` out
        have hcommon := exists_covers_of_listsMeet ha' hb h
        rcases hany with rfl | rfl
        · exact hcommon.any_left
        · exact hcommon.take_left hx
      · -- the table leaves the first segment of `b` out
        have hcommon := (exists_covers_of_listsMeet ha hb' h).symm
        rcases hany with rfl | rfl
        · exact (hcommon.take_left hy).symm
        · exact hcommon.any_left.symm
    · next hany =>
      rw [Bool.or_eq_true, beq_iff_eq, beq_iff_eq, not_or] at hany
      rw [Bool.and_eq_true] at h
      exact .cons hx hy hany.1 hany.2 h.1 (exists_covers_of_listsMeet ha' hb' h.2)
termination_by a.length + b.length

/-! ## Expressions and paths -/

/-- A segment has no slash. -/
private theorem slash_not_mem_segments {e : String} : ∀ s ∈ segments e, '/' ∉ s :=
  fun _ hs => not_mem_of_mem_splitOn hs

/-- There is always a first segment, which may be empty. -/
private theorem segments_ne_nil (e : String) : segments e ≠ [] := List.splitOn_ne_nil _ _

/-- The path with given texts as its segments. -/
def pathOf (c : List (List Char)) : String := String.ofList (['/'].intercalate c)

/-- A path that is put together of segments has these. -/
private theorem segments_pathOf {c : List (List Char)} (hne : c ≠ []) (hc : ∀ t ∈ c, IsConcrete t) :
    segments (pathOf c) = c := by
  rw [segments, pathOf, String.toList_ofList]
  exact List.splitOn_intercalate '/' (fun t ht => (hc t ht).2) hne

/-- A path of concrete segments has no star. -/
private theorem star_not_mem_pathOf {c : List (List Char)} (hc : ∀ t ∈ c, IsConcrete t) :
    '*' ∉ (pathOf c).toList := by
  rw [pathOf, String.toList_ofList]
  intro h
  obtain h | ⟨t, ht, h⟩ := mem_of_mem_intercalate h
  · exact absurd h (by decide)
  · exact (hc t ht).1 h

/-- Expressions with the same segments are the same. -/
private theorem segments_injective {a b : String} (h : segments a = segments b) : a = b :=
  String.toList_injective (splitOn_injective '/' h)

/-- An expression that covers no text at all also covers the empty text. -/
private theorem Covers.empty_text {e : List Segment} (hne : e ≠ []) (h : Covers e []) :
    Covers e [[]] := by
  cases e with
  | nil => exact absurd rfl hne
  | cons s e =>
    by_cases hs : s = anyNumber
    · subst hs
      exact h.any_cons []
    · obtain ⟨t, c', hc, -⟩ := h.one_cases hs
      cases hc

/-- Expressions that stand for a common text meet. -/
theorem meet_of_standsFor {a b c : String} (ha : StandsFor a c) (hb : StandsFor b c) :
    meet a b = true := listsMeet_of_covers ha hb

/-- Expressions that meet stand for a common text without stars. -/
private theorem exists_standsFor_of_meet {a b : String} (h : meet a b = true) :
    ∃ c : String, '*' ∉ c.toList ∧ StandsFor a c ∧ StandsFor b c := by
  obtain ⟨c, hc, hac, hbc⟩ :=
    exists_covers_of_listsMeet slash_not_mem_segments slash_not_mem_segments h
  cases c with
  | nil =>
    -- a path has at least one segment, so take the empty one
    have hempty : ∀ t ∈ [([] : List Char)], IsConcrete t := by simp [IsConcrete]
    refine ⟨pathOf [[]], star_not_mem_pathOf hempty, ?_, ?_⟩
    · rw [StandsFor, segments_pathOf (by simp) hempty]
      exact hac.empty_text (segments_ne_nil a)
    · rw [StandsFor, segments_pathOf (by simp) hempty]
      exact hbc.empty_text (segments_ne_nil b)
  | cons t c =>
    refine ⟨pathOf (t :: c), star_not_mem_pathOf hc, ?_, ?_⟩
    · rwa [StandsFor, segments_pathOf (by simp) hc]
    · rwa [StandsFor, segments_pathOf (by simp) hc]

/-- A concrete path stands for itself alone. -/
theorem standsFor_concrete_iff {c d : String} (hc : '*' ∉ c.toList) : StandsFor c d ↔ d = c := by
  have hplain : ∀ s ∈ segments c, '*' ∉ s := fun s hs h => hc (mem_of_mem_splitOn hs h).2
  rw [StandsFor, Covers.iff_eq_of_plain hplain]
  exact ⟨segments_injective, congrArg segments⟩

/-- An expression meets a text without stars exactly if it stands for it. -/
theorem meet_concrete_iff {e c : String} (hc : '*' ∉ c.toList) :
    meet e c = true ↔ StandsFor e c := by
  constructor
  · intro h
    obtain ⟨d, -, hed, hcd⟩ := exists_standsFor_of_meet h
    rwa [(standsFor_concrete_iff hc).1 hcd] at hed
  · intro h
    exact meet_of_standsFor h ((standsFor_concrete_iff hc).2 rfl)

/-- Two expressions meet if and only if some concrete path is one that both stand for; in
particular an expression meets a concrete path if and only if it stands for it. -/
theorem meet_iff_common_path :
    (∀ a b : String, meet a b = true ↔
      ∃ c : String, '*' ∉ c.toList ∧ StandsFor a c ∧ StandsFor b c) ∧
    ∀ e c : String, '*' ∉ c.toList → (meet e c = true ↔ StandsFor e c) := by
  refine ⟨fun a b => ⟨exists_standsFor_of_meet, ?_⟩, fun e c hc => meet_concrete_iff hc⟩
  rintro ⟨c, -, ha, hb⟩
  exact meet_of_standsFor ha hb

end PathSpace.Wildcard
