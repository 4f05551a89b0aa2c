/-! # Maps kept in key order

`SortedMap κ ν` is a finite map stored as a list of entries with strictly
increasing keys.  The order is part of the type, so two maps with the same
entries are equal, a listing is already sorted, and no key occurs twice.

* `find?` looks a key up, `insert` overwrites, `erase` removes;
* `toList` is the listing in key order;
* `mem_of_mem_insert` and `mem_of_mem_erase` say which entries the operations leave.
-/

namespace PathSpace

universe u v w

/-- A finite map whose entries are listed in strictly increasing key order. -/
structure SortedMap (κ : Type u) (ν : Type v) [Ord κ] where
  /-- The entries, one for each key. -/
  toList : List (κ × ν)
  /-- Keys increase strictly along the listing. -/
  sorted : toList.Pairwise fun a b => compare a.1 b.1 = .lt

namespace SortedMap

variable {κ : Type u} {ν : Type v} {μ : Type w} [Ord κ]

instance [DecidableEq κ] [DecidableEq ν] : DecidableEq (SortedMap κ ν) := fun a b =>
  if h : a.toList = b.toList then
    isTrue (by cases a; cases b; cases h; rfl)
  else
    isFalse fun e => h (e ▸ rfl)

/-- Two maps with the same listing are the same map. -/
theorem ext {a b : SortedMap κ ν} (h : a.toList = b.toList) : a = b := by
  cases a; cases b; cases h; rfl

/-- The map without entries. -/
def empty : SortedMap κ ν := ⟨[], .nil⟩

instance : EmptyCollection (SortedMap κ ν) := ⟨empty⟩

instance : Inhabited (SortedMap κ ν) := ⟨empty⟩

/-- The value stored under `k`. -/
def find? (m : SortedMap κ ν) (k : κ) : Option ν :=
  (m.toList.find? fun e => compare k e.1 == .eq).map (·.2)

/-- Whether `k` has a value. -/
def contains (m : SortedMap κ ν) (k : κ) : Bool :=
  m.toList.any fun e => compare k e.1 == .eq

/-- The number of entries. -/
def size (m : SortedMap κ ν) : Nat := m.toList.length

/-- Whether there is no entry. -/
def isEmpty (m : SortedMap κ ν) : Bool := m.toList.isEmpty

/-- The keys in order. -/
def keys (m : SortedMap κ ν) : List κ := m.toList.map (·.1)

/-- The values in key order. -/
def values (m : SortedMap κ ν) : List ν := m.toList.map (·.2)

/-! ## Insertion -/

/-- Puts `(k, v)` at its place in a sorted listing, replacing an entry of the same key. -/
def insertEntry (k : κ) (v : ν) : List (κ × ν) → List (κ × ν)
  | [] => [(k, v)]
  | e :: rest =>
    match compare k e.1 with
    | .lt => (k, v) :: e :: rest
    | .eq => (k, v) :: rest
    | .gt => e :: insertEntry k v rest

theorem mem_of_mem_insertEntry {k : κ} {v : ν} {e : κ × ν} {l : List (κ × ν)}
    (h : e ∈ insertEntry k v l) : e = (k, v) ∨ e ∈ l := by
  induction l with
  | nil => simpa [insertEntry] using h
  | cons a rest ih =>
    rw [insertEntry] at h
    split at h
    · simpa using h
    · rcases List.mem_cons.1 h with h | h
      · exact .inl h
      · exact .inr (List.mem_cons_of_mem _ h)
    · rcases List.mem_cons.1 h with h | h
      · exact .inr (h ▸ List.mem_cons_self)
      · exact (ih h).imp id (List.mem_cons_of_mem _)

theorem pairwise_insertEntry [Std.TransOrd κ] (k : κ) (v : ν) {l : List (κ × ν)}
    (h : l.Pairwise fun a b => compare a.1 b.1 = .lt) :
    (insertEntry k v l).Pairwise fun a b => compare a.1 b.1 = .lt := by
  induction l with
  | nil => simp [insertEntry]
  | cons a rest ih =>
    obtain ⟨ha, hrest⟩ := List.pairwise_cons.1 h
    rw [insertEntry]
    split
    · rename_i hlt
      refine List.pairwise_cons.2 ⟨fun b hb => ?_, h⟩
      rcases List.mem_cons.1 hb with rfl | hb
      · exact hlt
      · exact Std.TransCmp.lt_trans hlt (ha b hb)
    · rename_i heq
      exact List.pairwise_cons.2
        ⟨fun b hb => Std.TransCmp.lt_of_eq_of_lt heq (ha b hb), hrest⟩
    · rename_i hgt
      refine List.pairwise_cons.2 ⟨fun b hb => ?_, ih hrest⟩
      rcases mem_of_mem_insertEntry hb with rfl | hb
      · exact Std.OrientedCmp.gt_iff_lt.1 hgt
      · exact ha b hb

variable [Std.TransOrd κ]

/-- Stores `v` under `k`, whether or not `k` had a value. -/
def insert (m : SortedMap κ ν) (k : κ) (v : ν) : SortedMap κ ν :=
  ⟨insertEntry k v m.toList, pairwise_insertEntry k v m.sorted⟩

omit [Std.TransOrd κ] in
/-- Removes the entry of `k`, if there is one. -/
def erase (m : SortedMap κ ν) (k : κ) : SortedMap κ ν :=
  ⟨m.toList.filter fun e => compare k e.1 != .eq, m.sorted.filter _⟩

/-- Stores the pairs of a list one after the other, so a later pair wins. -/
def ofList (l : List (κ × ν)) : SortedMap κ ν :=
  l.foldl (fun m e => m.insert e.1 e.2) empty

/-- Stores under `k` what `f` makes of the value that is there. -/
def alter (m : SortedMap κ ν) (k : κ) (f : Option ν → ν) : SortedMap κ ν :=
  m.insert k (f (m.find? k))

omit [Std.TransOrd κ] in
/-- Applies `f` to every entry's value, leaving the keys. -/
def mapValues (m : SortedMap κ ν) (f : κ → ν → μ) : SortedMap κ μ :=
  ⟨m.toList.map fun e => (e.1, f e.1 e.2), List.pairwise_map.2 m.sorted⟩

/-! ## What the operations leave -/

theorem mem_of_mem_insert {m : SortedMap κ ν} {k : κ} {v : ν} {e : κ × ν}
    (h : e ∈ (m.insert k v).toList) : e = (k, v) ∨ e ∈ m.toList :=
  mem_of_mem_insertEntry h

omit [Std.TransOrd κ] in
theorem mem_of_mem_erase {m : SortedMap κ ν} {k : κ} {e : κ × ν}
    (h : e ∈ (m.erase k).toList) : e ∈ m.toList :=
  (List.mem_filter.1 h).1

end SortedMap

end PathSpace
