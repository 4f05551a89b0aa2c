import PathSpace.Address.Properties
import PathSpace.Proofs.Collections.SortedMap
import PathSpace.Proofs.Text.Pieces
/-!
# The text of properties

Semicolons separate the entries of a text, and the first `=` of an entry separates name and value.
What is read from a text has neither where it would be taken for a separator, so its own text is
read as the same properties.

## Key results

- `Plain`: no separator occurs where it would be taken for one
- `parse_text`: the text of plain properties is read as these properties
- `mem_keys_parse_iff`: the names that are read from a text
- `plain_parse`: what is read from a text is plain
- `parse_text_eq_iff`: which properties are read back from their text
-/

namespace PathSpace.Properties

open Text

/-- No separator occurs where it would be taken for one: there is no `=` in a name and no semicolon
in a name or a value. -/
def Plain (p : Properties) : Prop :=
  ∀ e ∈ p.toList, '=' ∉ e.1.toList ∧ ';' ∉ e.1.toList ∧ ';' ∉ e.2.toList

/-! ## Entries -/

private theorem toList_entryText (e : String × String) :
    (entryText e).toList = e.1.toList ++ '=' :: e.2.toList := by
  simp [entryText]

/-- The text of an entry is read as that entry if its name has no `=`. -/
private theorem entry_entryText {e : String × String} (h : '=' ∉ e.1.toList) :
    entry (entryText e).toList = e := by
  rw [entry, cutAt_eq_some_iff.2 ⟨toList_entryText e, h⟩]
  simp

/-- The name of an entry has no `=`, and what occurs in name or value occurs in the entry. -/
private theorem of_entry {piece : List Char} {e : String × String} (h : entry piece = e) :
    '=' ∉ e.1.toList ∧ (∀ c ∈ e.1.toList, c ∈ piece) ∧ ∀ c ∈ e.2.toList, c ∈ piece := by
  subst h
  rw [entry]
  split
  · next name value hcut =>
    obtain ⟨rfl, hname⟩ := cutAt_eq_some_iff.1 hcut
    simp only [String.toList_ofList]
    exact ⟨hname, fun c hc => by simp [hc], fun c hc => by simp [hc]⟩
  · next hcut =>
    simp only [String.toList_ofList]
    exact ⟨cutAt_eq_none_iff.1 hcut, fun c hc => hc, by simp⟩

/-- A word without `=` cannot reach beyond the name of an entry. -/
theorem prefix_name_entry_iff {word piece : List Char} (hword : '=' ∉ word) :
    word <+: (entry piece).1.toList ↔ word <+: piece := by
  rw [entry]
  split
  · next name value hcut =>
    obtain ⟨rfl, -⟩ := cutAt_eq_some_iff.1 hcut
    rw [String.toList_ofList]
    constructor
    · intro h
      exact h.trans (List.prefix_append _ _)
    · intro h
      rcases List.prefix_or_prefix_of_prefix h (List.prefix_append name _) with h' | ⟨more, rfl⟩
      · exact h'
      · -- what the word has behind the name would begin with the `=`
        rw [List.prefix_append_right_inj] at h
        cases more with
        | nil => simp
        | cons c more =>
          obtain ⟨rfl, -⟩ := List.cons_prefix_cons.1 h
          simp at hword
  · rw [String.toList_ofList]

/-! ## Texts -/

/-- The names that are read are those of the entries; an empty text has none. -/
theorem mem_keys_parse_iff {s name : String} :
    name ∈ (parse s).keys ↔ s ≠ "" ∧ ∃ piece ∈ s.toList.splitOn ';', (entry piece).1 = name := by
  rw [parse]
  split
  · next hempty =>
    have hs : s = "" := by simpa using hempty
    simp only [hs, ne_eq, not_true_eq_false, false_and, iff_false]
    exact List.not_mem_nil
  · next hne =>
    have hs : s ≠ "" := by simpa using hne
    rw [SortedMap.mem_keys_ofList_iff]
    simp [hs]

private theorem toList_text (p : Properties) :
    p.text.toList = [';'].intercalate (p.toList.map fun e => (entryText e).toList) := by
  rw [text, String.toList_intercalate, List.map_map]
  rfl

/-- Only the text of no properties is empty: every entry has its `=`. -/
private theorem text_isEmpty_iff (p : Properties) : p.text.isEmpty = true ↔ p.toList = [] := by
  rw [String.isEmpty_iff, ← String.toList_eq_nil_iff, toList_text]
  cases p.toList with
  | nil => simp
  | cons e rest => cases rest <;> simp [toList_entryText]

/-- The text of plain properties is read as these properties. -/
theorem parse_text {p : Properties} (hp : p.Plain) : parse p.text = p := by
  rw [parse]
  split
  · next hempty =>
    exact SortedMap.ext ((text_isEmpty_iff p).1 hempty).symm
  · next hne =>
    -- no entry has a semicolon of its own, so the cuts are between the entries
    have hpieces : p.text.toList.splitOn ';' = p.toList.map fun e => (entryText e).toList := by
      rw [toList_text]
      refine List.splitOn_intercalate ';' ?_ ?_
      · intro piece hpiece
        obtain ⟨e, he, rfl⟩ := List.mem_map.1 hpiece
        obtain ⟨-, hname, hvalue⟩ := hp e he
        simp [toList_entryText, hname, hvalue]
      · intro hnil
        exact hne ((text_isEmpty_iff p).2 (List.map_eq_nil_iff.1 hnil))
    have hentries : (p.toList.map fun e => (entryText e).toList).map entry = p.toList := by
      rw [List.map_map]
      exact (List.map_congr_left fun e he => entry_entryText (hp e he).1).trans (List.map_id _)
    rw [hpieces, hentries, SortedMap.ofList_toList]

/-- What is read from a text is plain. -/
theorem plain_parse (s : String) : (parse s).Plain := by
  intro e he
  rw [parse] at he
  split at he
  · cases he
  · obtain ⟨piece, hpiece, hentry⟩ := List.mem_map.1 (SortedMap.mem_of_mem_ofList he)
    obtain ⟨heq, hname, hvalue⟩ := of_entry hentry
    have hsep : ';' ∉ piece := not_mem_of_mem_splitOn hpiece
    exact ⟨heq, fun h => hsep (hname _ h), fun h => hsep (hvalue _ h)⟩

/-- Properties are read back from their text if they are plain, and only then.  So what has been
read from a text once stays the same when it is written and read again. -/
theorem parse_text_eq_iff :
    (∀ p : Properties, parse p.text = p ↔ p.Plain) ∧ ∀ s, parse (parse s).text = parse s := by
  refine ⟨fun p => ⟨fun h => ?_, parse_text⟩, fun s => parse_text (plain_parse s)⟩
  -- whatever the text of `p` is, what is read from it is plain
  rw [← h]
  exact plain_parse p.text

end PathSpace.Properties
