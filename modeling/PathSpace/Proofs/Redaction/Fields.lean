import PathSpace.Redaction.Redactor
import PathSpace.Proofs.Address.Properties
/-!
# Sensitive fields

What is logged of properties is a text for all of them.  A field with a sensitive name has the same
entry in it whatever its value is: the replacement stands for the value as it is, and it is not
searched for secrets.

## Key results

- `isSensitive_ofSettings_iff`: which names are sensitive under some settings
- `redactProperties_of_sameBut`: sensitive values have no influence on the text
-/

namespace PathSpace

/-! ## Finding a part of a name -/

/-- A part occurs in a text if it is an infix of it. -/
private theorem Text.occursIn_iff {part text : List Char} :
    occursIn part text = true ↔ part <:+: text := by
  rw [occursIn, Option.isSome_iff_exists]
  constructor
  · rintro ⟨rest, h⟩
    obtain ⟨⟨gap, hgap⟩, -⟩ := afterFirst_some h
    exact ⟨gap, rest, hgap.symm⟩
  · rintro ⟨gap, rest, h⟩
    by_contra hnone
    rw [← Option.isSome_iff_exists, Option.not_isSome_iff_eq_none] at hnone
    exact afterFirst_none hnone gap rest h.symm

namespace Redactor

/-! ## Names -/

/-- A name contains one of the configured names, whatever the case of both. -/
def NamedIn (s : RedactionSettings) (field : String) : Prop :=
  ∃ pattern ∈ s.patterns, ∃ name ∈ pattern.fieldNames,
    (Text.lower name).toList <:+: (Text.lower field).toList

theorem isSensitive_ofSettings_iff (s : RedactionSettings) (field : String) :
    (ofSettings s).isSensitive field = true ↔ s.enabled = true ∧ NamedIn s field := by
  unfold isSensitive ofSettings NamedIn
  simp only [Bool.and_eq_true, List.any_eq_true, List.mem_flatMap, List.mem_map,
    Text.occursIn_iff]
  grind

/-! ## Entries -/

private theorem redact_of_isSensitive {r : Redactor} {field : String}
    (h : r.isSensitive field = true)
    (value : String) : r.redact field value = r.replacement := by
  rw [redact, if_pos h]

/-- Properties with the same names, and with the same values under all names that are not
sensitive. -/
structure SameBut (r : Redactor) (p q : Properties) : Prop where
  keys : p.keys = q.keys
  values : ∀ field, r.isSensitive field = false → p.find? field = q.find? field

/-- Properties that differ at sensitive names only are logged the same. -/
private theorem SameBut.mapValues_eq {r : Redactor} {p q : Properties} (h : r.SameBut p q) :
    p.mapValues r.redact = q.mapValues r.redact := by
  refine SortedMap.ext_find? fun field => ?_
  rw [SortedMap.find?_mapValues, SortedMap.find?_mapValues]
  cases hs : r.isSensitive field with
  | false => rw [h.values field hs]
  | true =>
    -- either both have the field, or none of them has it
    have hboth : (p.find? field).isSome = (q.find? field).isSome := by
      rw [Bool.eq_iff_iff, Option.isSome_iff_exists, Option.isSome_iff_exists,
        ← SortedMap.mem_keys_iff, ← SortedMap.mem_keys_iff, h.keys]
    cases hp : p.find? field with
    | none =>
      cases hq : q.find? field with
      | none => rfl
      | some w => simp [hp, hq] at hboth
    | some v =>
      cases hq : q.find? field with
      | none => simp [hp, hq] at hboth
      | some w => rw [Option.map_some, Option.map_some, redact_of_isSensitive hs,
          redact_of_isSensitive hs]

/-- Properties that differ in the value of one sensitive field. -/
private theorem sameBut_insert {r : Redactor} {field : String} (h : r.isSensitive field = true)
    (p : Properties) (v w : String) : r.SameBut (p.insert field v) (p.insert field w) where
  keys := by
    -- the names are those of the map that has nothing for values
    have hkeys (x : String) : (p.insert field x).keys =
        ((p.mapValues fun _ _ => ()).insert field ()).keys := by
      rw [← SortedMap.mapValues_insert p (fun _ _ => ()) field x]
      simp [SortedMap.keys, SortedMap.mapValues]
    rw [hkeys v, hkeys w]
  values other hother := by
    have hne : other ≠ field := by
      rintro rfl
      rw [h] at hother
      cases hother
    rw [SortedMap.find?_insert, SortedMap.find?_insert, if_neg hne, if_neg hne]

/-- Under all settings, values of sensitive fields have no influence on the text of properties, and
a field is sensitive when its name contains a configured one. -/
theorem redactProperties_of_sameBut (s : RedactionSettings) (henabled : s.enabled = true) :
    (∀ p q, (ofSettings s).SameBut p q →
        (ofSettings s).redactProperties p = (ofSettings s).redactProperties q) ∧
      ∀ field, NamedIn s field → (ofSettings s).isSensitive field = true := by
  refine ⟨fun p q h => ?_, fun field h => ?_⟩
  · rw [redactProperties, redactProperties, h.mapValues_eq]
  · exact (isSensitive_ofSettings_iff s field).2 ⟨henabled, h⟩

/-- Two passwords of one user, of which the second has separators and the look of a login.  The
replacement would put the login itself back if it were used as it is for the user. -/
theorem redactProperties_of_two_passwords :
    let s : RedactionSettings := { replacement := "[$0]" }
    let p : Properties := .ofList [("user", "x:y@z")]
    s.enabled = true ∧ NamedIn s "DB_Password" ∧
      (ofSettings s).redactProperties (p.insert "DB_Password" "hunter2") =
        (ofSettings s).redactProperties (p.insert "DB_Password" "a:b@c;user=d") := by
  intro s p
  have hnamed : NamedIn s "DB_Password" :=
    ⟨_, List.mem_cons_self, "password", List.mem_cons_self, by decide +kernel⟩
  obtain ⟨htext, hsensitive⟩ := redactProperties_of_sameBut s rfl
  exact ⟨rfl, hnamed, htext _ _ (sameBut_insert (hsensitive _ hnamed) p _ _)⟩

end Redactor

end PathSpace
