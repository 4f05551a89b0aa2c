import PathSpace.Collections.SortedMap
import Mathlib.Data.List.Basic
/-!
# Looking up in a sorted map

What `SortedMap.find?` finds after each operation, and how it relates to the listing.

## Key results

- `find?_eq_some_iff`: a lookup finds exactly the listed entries
- `nodup_keys`, `filterMap_find?_keys`: the keys, and what is found under them
- `find?_insert`, `find?_erase`, `find?_alter`, `find?_mapValues`, `find?_ofList`: one equation
  per operation
- `mapValues_insert`, `mapValues_erase`: changing all values goes along with both
- `toList_perm_of_find?`, `toList_insert_perm`: one entry and the entries of the other keys
- `mem_keys_ofList_iff`: the keys of a map that is made of a list
- `ofList_toList`: a map is made of its listing
-/

namespace PathSpace.SortedMap

universe u v w

variable {κ : Type u} {ν : Type v} {μ : Type w} [Ord κ]

theorem find?_empty (k : κ) : (∅ : SortedMap κ ν).find? k = none := rfl

/-- A map contains a key if it has an entry for it. -/
theorem contains_eq_isSome {m : SortedMap κ ν} {k : κ} : m.contains k = (m.find? k).isSome := by
  rw [find?, Option.isSome_map, Bool.eq_iff_iff, contains, List.any_eq_true, List.find?_isSome]

variable [Std.LawfulEqOrd κ]

/-- What is found is an entry of the map. -/
theorem mem_of_find? {m : SortedMap κ ν} {k : κ} {v : ν} (h : m.find? k = some v) :
    (k, v) ∈ m.toList := by
  rw [find?, Option.map_eq_some_iff] at h
  obtain ⟨⟨k', v'⟩, hf, rfl⟩ := h
  have hk := List.find?_some hf
  simp only [beq_iff_eq, Std.LawfulEqOrd.compare_eq_iff_eq] at hk
  rw [hk]
  exact List.mem_of_find?_eq_some hf

/-- The entries of a sorted listing are told apart by their keys. -/
theorem eq_of_mem {m : SortedMap κ ν} {k : κ} {v v' : ν} (h : (k, v) ∈ m.toList)
    (h' : (k, v') ∈ m.toList) : v = v' := by
  by_contra hne
  have hk := List.Pairwise.forall_of_forall_of_flip (R := fun a b : κ × ν => a ≠ b → a.1 ≠ b.1)
    (by simp) (m.sorted.imp fun hlt _ he => by simp [he] at hlt)
    (m.sorted.imp fun hlt _ he => by simp [he] at hlt) h h'
  exact hk (by simpa using hne) rfl

/-- What is found under a key are exactly the entries of the map. -/
theorem find?_eq_some_iff {m : SortedMap κ ν} {k : κ} {v : ν} :
    m.find? k = some v ↔ (k, v) ∈ m.toList := by
  refine ⟨mem_of_find?, fun h => ?_⟩
  cases hf : m.find? k with
  | none =>
    rw [find?, Option.map_eq_none_iff, List.find?_eq_none] at hf
    have hself : compare k k = .eq := Std.ReflCmp.compare_self
    exact absurd hself (by simpa using hf _ h)
  | some v' => rw [eq_of_mem (mem_of_find? hf) h]

/-- Nothing is found under a key that has no entry. -/
theorem find?_eq_none_iff {m : SortedMap κ ν} {k : κ} :
    m.find? k = none ↔ ∀ v, (k, v) ∉ m.toList := by
  rw [Option.eq_none_iff_forall_ne_some]
  exact forall_congr' fun v => not_congr find?_eq_some_iff

/-- No entry is listed twice. -/
theorem nodup_toList (m : SortedMap κ ν) : m.toList.Nodup :=
  m.sorted.imp fun hlt he => by simp [he] at hlt

/-- Two maps in which every lookup finds the same are the same map. -/
theorem ext_find? [Std.TransOrd κ] {a b : SortedMap κ ν} (h : ∀ k, a.find? k = b.find? k) :
    a = b := by
  have hmem (e : κ × ν) : e ∈ a.toList ↔ e ∈ b.toList := by
    obtain ⟨k, v⟩ := e
    rw [← find?_eq_some_iff, h, find?_eq_some_iff]
  refine ext (List.Perm.eq_of_pairwise (fun e e' _ _ hlt hgt => ?_) a.sorted b.sorted
    ((List.perm_ext_iff_of_nodup a.nodup_toList b.nodup_toList).2 hmem))
  exact absurd (Std.TransCmp.lt_trans hlt hgt) (by simp)

/-- No key is listed twice. -/
theorem nodup_keys (m : SortedMap κ ν) : m.keys.Nodup := by
  rw [keys, List.Nodup, List.pairwise_map]
  exact m.sorted.imp fun hlt he => by simp [he] at hlt

/-- The keys are those under which something is found. -/
theorem mem_keys_iff {m : SortedMap κ ν} {k : κ} : k ∈ m.keys ↔ ∃ v, m.find? k = some v := by
  rw [keys, List.mem_map]
  constructor
  · rintro ⟨⟨k', v⟩, hmem, rfl⟩
    exact ⟨v, find?_eq_some_iff.2 hmem⟩
  · rintro ⟨v, hfind⟩
    exact ⟨(k, v), mem_of_find? hfind, rfl⟩

/-- The values are those that are found under some key. -/
theorem mem_values_iff {m : SortedMap κ ν} {v : ν} : v ∈ m.values ↔ ∃ k, m.find? k = some v := by
  rw [values, List.mem_map]
  constructor
  · rintro ⟨⟨k, v'⟩, hmem, rfl⟩
    exact ⟨k, find?_eq_some_iff.2 hmem⟩
  · rintro ⟨k, hfind⟩
    exact ⟨(k, v), mem_of_find? hfind, rfl⟩

/-- The values are what is found under the keys. -/
theorem filterMap_find?_keys (m : SortedMap κ ν) : m.keys.filterMap m.find? = m.values := by
  rw [keys, values, List.filterMap_map, ← List.filterMap_eq_map]
  exact List.filterMap_congr fun e he => find?_eq_some_iff.2 he

/-! ## After an operation -/

/-- After an erasure nothing is found under the key, and the others are as they were. -/
theorem find?_erase [DecidableEq κ] (m : SortedMap κ ν) (k k' : κ) :
    (m.erase k).find? k' = if k' = k then none else m.find? k' := by
  split
  · rename_i h
    rw [h, find?_eq_none_iff]
    intro v hm
    have := (List.mem_filter.1 hm).2
    simp at this
  · rename_i h
    apply Option.ext
    intro v'
    rw [find?_eq_some_iff, find?_eq_some_iff, erase, List.mem_filter]
    refine ⟨And.left, fun hm => ⟨hm, ?_⟩⟩
    simpa using Ne.symm h

/-- What is found after an erasure was found before. -/
theorem find?_of_find?_erase [DecidableEq κ] {m : SortedMap κ ν} {k k' : κ} {v : ν}
    (h : (m.erase k).find? k' = some v) : m.find? k' = some v := by
  rw [find?_erase] at h
  split at h
  · cases h
  · exact h

/-- A map lists what is found under a key, and the entries of the other keys. -/
theorem toList_perm_of_find? [DecidableEq κ] {m : SortedMap κ ν} {k : κ} {v : ν}
    (h : m.find? k = some v) : m.toList.Perm ((k, v) :: (m.erase k).toList) := by
  have hfresh : (k, v) ∉ (m.erase k).toList := by
    rw [← find?_eq_some_iff, find?_erase, if_pos rfl]
    exact Option.some_ne_none v ∘ Eq.symm
  refine (List.perm_ext_iff_of_nodup m.nodup_toList
    (List.nodup_cons.2 ⟨hfresh, (m.erase k).nodup_toList⟩)).2 fun e => ?_
  rw [List.mem_cons, ← find?_eq_some_iff, ← find?_eq_some_iff, find?_erase]
  split
  · next heq => simp [heq, h, Prod.ext_iff, eq_comm]
  · next hne => simp [hne, Prod.ext_iff]

/-- The image of what was there is found under each key. -/
theorem find?_mapValues (m : SortedMap κ ν) (f : κ → ν → μ) (k : κ) :
    (m.mapValues f).find? k = (m.find? k).map (f k) := by
  apply Option.ext
  intro v
  rw [find?_eq_some_iff, Option.map_eq_some_iff]
  constructor
  · intro h
    obtain ⟨⟨k', v'⟩, hm, he⟩ := List.mem_map.1 h
    cases he
    exact ⟨v', find?_eq_some_iff.2 hm, rfl⟩
  · rintro ⟨v', hv', rfl⟩
    exact List.mem_map.2 ⟨(k, v'), find?_eq_some_iff.1 hv', rfl⟩

omit [Std.LawfulEqOrd κ] in
/-- A new entry is there. -/
theorem mem_insertEntry_self (k : κ) (v : ν) (l : List (κ × ν)) : (k, v) ∈ insertEntry k v l := by
  induction l with
  | nil => simp [insertEntry]
  | cons e rest ih =>
    rw [insertEntry]
    split
    · simp
    · simp
    · exact List.mem_cons_of_mem _ ih

/-- Entries of other keys stay. -/
theorem mem_insertEntry_of_ne {k : κ} {v : ν} {e : κ × ν} {l : List (κ × ν)} (he : e ∈ l)
    (hk : e.1 ≠ k) : e ∈ insertEntry k v l := by
  induction l with
  | nil => cases he
  | cons a rest ih =>
    -- the new entry comes before the first, replaces it, or goes on
    rw [insertEntry]
    split
    · exact List.mem_cons_of_mem _ he
    · rename_i heq
      rcases List.mem_cons.1 he with rfl | he
      · exact absurd (Std.LawfulEqOrd.eq_of_compare heq).symm hk
      · exact List.mem_cons_of_mem _ he
    · rcases List.mem_cons.1 he with rfl | he
      · exact List.mem_cons_self
      · exact List.mem_cons_of_mem _ (ih he)

variable [Std.TransOrd κ]

/-- After an insertion the new value is found under the key, and the others are as they were. -/
theorem find?_insert [DecidableEq κ] (m : SortedMap κ ν) (k : κ) (v : ν) (k' : κ) :
    (m.insert k v).find? k' = if k' = k then some v else m.find? k' := by
  split
  · rename_i h
    rw [h, find?_eq_some_iff]
    exact mem_insertEntry_self k v m.toList
  · rename_i h
    apply Option.ext
    intro v'
    rw [find?_eq_some_iff, find?_eq_some_iff]
    constructor
    -- what is not the new entry was there before
    · intro hm
      obtain he | hm := mem_of_mem_insert hm
      · exact absurd (Prod.ext_iff.1 he).1 h
      · exact hm
    · intro hm
      exact mem_insertEntry_of_ne hm h

/-- What was inserted is found. -/
theorem find?_insert_self (m : SortedMap κ ν) (k : κ) (v : ν) :
    (m.insert k v).find? k = some v := by
  rw [find?_eq_some_iff]
  exact mem_insertEntry_self k v m.toList

/-- An alteration changes the value under one key. -/
theorem find?_alter [DecidableEq κ] (m : SortedMap κ ν) (k : κ) (f : Option ν → ν) (k' : κ) :
    (m.alter k f).find? k' = if k' = k then some (f (m.find? k)) else m.find? k' :=
  find?_insert m k _ k'

/-- An entry can be inserted before or after the values are mapped. -/
theorem mapValues_insert [DecidableEq κ] (m : SortedMap κ ν) (f : κ → ν → μ) (k : κ) (v : ν) :
    (m.insert k v).mapValues f = (m.mapValues f).insert k (f k v) := by
  refine ext_find? fun k' => ?_
  rw [find?_mapValues, find?_insert, find?_insert, find?_mapValues]
  split
  · next hk => rw [hk, Option.map_some]
  · rfl

/-- An entry can be erased before or after the values are mapped. -/
theorem mapValues_erase [DecidableEq κ] (m : SortedMap κ ν) (f : κ → ν → μ) (k : κ) :
    (m.erase k).mapValues f = (m.mapValues f).erase k := by
  refine ext_find? fun k' => ?_
  rw [find?_mapValues, find?_erase, find?_erase, find?_mapValues]
  split
  · rfl
  · rfl

/-- After storing, a map lists the new entry and the entries of the other keys. -/
theorem toList_insert_perm [DecidableEq κ] (m : SortedMap κ ν) (k : κ) (v : ν) :
    (m.insert k v).toList.Perm ((k, v) :: (m.erase k).toList) := by
  have hsame : (m.insert k v).erase k = m.erase k := by
    refine ext_find? fun k' => ?_
    rw [find?_erase, find?_erase, find?_insert]
    split <;> rfl
  rw [← hsame]
  exact toList_perm_of_find? (m.find?_insert_self k v)

/-- To erase a key without entry changes nothing. -/
theorem erase_of_find?_eq_none [DecidableEq κ] {m : SortedMap κ ν} {k : κ}
    (h : m.find? k = none) : m.erase k = m := by
  refine ext_find? fun k' => ?_
  rw [find?_erase]
  split
  · next heq => rw [heq, h]
  · rfl

/-- Of the pairs of a list with the same key the last one counts. -/
theorem find?_ofList [DecidableEq κ] (l : List (κ × ν)) (k : κ) :
    (ofList l).find? k = (l.reverse.find? fun e => e.1 = k).map (·.2) := by
  have hfold : ∀ m : SortedMap κ ν, (l.foldl (fun m e => m.insert e.1 e.2) m).find? k =
      ((l.reverse.find? fun e => e.1 = k).map (·.2)).or (m.find? k) := by
    induction l with
    | nil => simp
    | cons e rest ih =>
      intro m
      rw [List.foldl_cons, ih, List.reverse_cons, List.find?_append, find?_insert]
      -- a later pair of the key hides `e`
      cases rest.reverse.find? fun e => e.1 = k with
      | some e' => simp
      | none =>
        by_cases hk : e.1 = k
        · simp [hk]
        · simp [hk, Ne.symm hk]
  have hempty := hfold empty
  rwa [show (empty : SortedMap κ ν).find? k = none from rfl, Option.or_none] at hempty

/-- What is listed after storing the pairs of a list is one of them. -/
theorem mem_of_mem_ofList [DecidableEq κ] {l : List (κ × ν)} {e : κ × ν}
    (h : e ∈ (ofList l).toList) : e ∈ l := by
  have hfind := find?_eq_some_iff.2 h
  rw [find?_ofList, Option.map_eq_some_iff] at hfind
  obtain ⟨e', he', hvalue⟩ := hfind
  have hkey : e'.1 = e.1 := by simpa using List.find?_some he'
  rw [← Prod.ext hkey hvalue]
  exact List.mem_reverse.1 (List.mem_of_find?_eq_some he')

/-- The keys are those of the pairs that were stored, however often. -/
theorem mem_keys_ofList_iff [DecidableEq κ] {l : List (κ × ν)} {k : κ} :
    k ∈ (ofList l).keys ↔ ∃ e ∈ l, e.1 = k := by
  rw [mem_keys_iff, ← Option.isSome_iff_exists, find?_ofList, Option.isSome_map, List.find?_isSome]
  simp

/-- Storing the entries of a map one after the other gives the map back. -/
theorem ofList_toList [DecidableEq κ] (m : SortedMap κ ν) : ofList m.toList = m := by
  refine ext_find? fun k => Option.ext fun v => ?_
  rw [find?_eq_some_iff, find?_eq_some_iff]
  refine ⟨mem_of_mem_ofList, fun hmem => ?_⟩
  rw [← find?_eq_some_iff, find?_ofList]
  -- of several entries with one key the last would count, but here each key has one
  cases hfind : m.toList.reverse.find? fun e => e.1 = k with
  | none =>
    have hnone := List.find?_eq_none.1 hfind (k, v) (List.mem_reverse.2 hmem)
    exact absurd hnone (by simp)
  | some e =>
    have hkey : e.1 = k := by simpa using List.find?_some hfind
    have hlisted := List.mem_reverse.1 (List.mem_of_find?_eq_some hfind)
    exact congrArg some (eq_of_mem (k := k) (hkey ▸ hlisted) hmem)

end PathSpace.SortedMap
