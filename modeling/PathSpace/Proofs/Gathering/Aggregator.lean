import PathSpace.Gathering.Aggregator
import PathSpace.Proofs.Address.Path
import PathSpace.Proofs.Collections.SortedMap
import PathSpace.Proofs.Time.Order
/-!
# The result of gathering

Replies are gathered by path.  A series has one datum for each path and time that was answered,
and a snapshot the last of them for each path.  Of several replies with the same path and time the
first one counts.

## Key results

- `find?_pushAll`: the replies of one path, in the order of arrival
- `size_pushAll`: the number of replies
- `mem_history_iff`, `history_sorted`: the history of one path
- `mem_finish_pushAll_iff`, `finish_pushAll_sorted`: the result of a number of replies
- `mem_finish_iff`, `finish_sorted`: the result when all replies of each path are the same
-/

namespace PathSpace

namespace Data

/-- What tells the data of a result apart. -/
def key (d : Data) : Path × Timestamp := (d.path, d.timestamp)

/-- Two data have the same key if they have the same path and the same time. -/
theorem key_eq_iff {d e : Data} : d.key = e.key ↔ d.path = e.path ∧ d.timestamp = e.timestamp := by
  rw [key, key, Prod.mk.injEq]

end Data

namespace Aggregator

/-- The order of a result: by path, and for each path by time. -/
def Precedes (k l : Path × Timestamp) : Prop :=
  compare k.1 l.1 = .lt ∨ (k.1 = l.1 ∧ k.2.before l.2 = true)

/-- No two keys come before each other. -/
private theorem Precedes.asymm {k l : Path × Timestamp} (h : Precedes k l) : ¬ Precedes l k := by
  rintro (hlt' | ⟨hpath', hbefore'⟩) <;> rcases h with hlt | ⟨hpath, hbefore⟩
  · exact absurd (Std.TransCmp.lt_trans hlt hlt') (by simp)
  · simp [hpath] at hlt'
  · simp [hpath'] at hlt
  · simp [Timestamp.not_before_of_before hbefore] at hbefore'

/-- Two lists in this order with the same members are the same. -/
theorem eq_of_precedes {α : Type} (key : α → Path × Timestamp) {l l' : List α}
    (hl : l.Pairwise fun a b => Precedes (key a) (key b))
    (hl' : l'.Pairwise fun a b => Precedes (key a) (key b)) (h : ∀ a, a ∈ l ↔ a ∈ l') : l = l' := by
  have hne {a b : α} (hab : Precedes (key a) (key b)) : a ≠ b := by
    rintro rfl
    exact hab.asymm hab
  -- no member comes twice, so the lists are permutations, and the order leaves one of them only
  have hperm : l.Perm l' := (List.perm_ext_iff_of_nodup (hl.imp hne) (hl'.imp hne)).2 h
  exact hperm.eq_of_pairwise (fun a b _ _ hab hba => absurd hba hab.asymm) hl hl'

variable {ds group : List Data} {d : Data}

/-- A datum joins those of its path, behind them. -/
private theorem find?_push (a : Aggregator) (d : Data) (p : Path) :
    (a.push d).groups.find? p =
      if p = d.path then some ((a.groups.find? d.path).getD [] ++ [d]) else a.groups.find? p :=
  SortedMap.find?_alter a.groups d.path _ p

/-- The replies of one path, in the order of arrival. -/
theorem find?_pushAll (a : Aggregator) (ds : List Data) (p : Path) :
    (a.pushAll ds).groups.find? p =
      if ∃ d ∈ ds, d.path = p then
        some ((a.groups.find? p).getD [] ++ ds.filter fun d => d.path = p)
      else a.groups.find? p := by
  induction ds generalizing a with
  | nil => simp [pushAll]
  | cons d rest ih =>
    rw [pushAll, List.foldl_cons, ← pushAll, ih, find?_push]
    -- only the data of this path are counted
    by_cases hd : d.path = p
    · subst hd
      by_cases hrest : ∃ d' ∈ rest, d'.path = d.path
      · simp [hrest]
      · have hfilter : rest.filter (fun d' => d'.path = d.path) = [] := by
          rw [List.filter_eq_nil_iff]
          intro d' hd' heq
          exact hrest ⟨d', hd', by simpa using heq⟩
        simp [hrest, hfilter]
    · simp [hd, Ne.symm hd]

/-! ## The number of replies -/

/-- The group of a path and the groups of the others make up the whole. -/
private theorem size_of_perm {a b : Aggregator} {p : Path} {group : List Data}
    (h : a.groups.toList.Perm ((p, group) :: b.groups.toList)) :
    a.size = group.length + b.size := by
  have hlength := (h.map (·.2)).flatten.length_eq
  rwa [List.map_cons, List.flatten_cons, List.length_append] at hlength

/-- Each reply counts, whether or not there are others with its path. -/
private theorem size_push (a : Aggregator) (d : Data) : (a.push d).size = a.size + 1 := by
  have hpush : (a.push d).size = ((a.groups.find? d.path).getD [] ++ [d]).length +
      (Aggregator.mk (a.groups.erase d.path)).size :=
    size_of_perm (a.groups.toList_insert_perm d.path _)
  rw [hpush, List.length_append, List.length_singleton]
  -- what was found under the path is all that the other groups lack
  cases hfind : a.groups.find? d.path with
  | none =>
    rw [SortedMap.erase_of_find?_eq_none hfind]
    exact Nat.add_comm 1 a.size
  | some group =>
    have hgroup : a.size = group.length + (Aggregator.mk (a.groups.erase d.path)).size :=
      size_of_perm (SortedMap.toList_perm_of_find? hfind)
    rw [hgroup, Option.getD_some]
    exact Nat.add_right_comm _ _ _

/-- Every reply is counted. -/
theorem size_pushAll (a : Aggregator) (ds : List Data) :
    (a.pushAll ds).size = a.size + ds.length := by
  induction ds generalizing a with
  | nil => rfl
  | cons d rest ih =>
    rw [pushAll, List.foldl_cons, ← pushAll, ih, size_push, List.length_cons, Nat.add_assoc,
      Nat.add_comm 1]

/-! ## The history of a path -/

/-- The order that is sorted by is that of the timestamps. -/
private theorem notLater_iff {a b : Data} :
    notLater a b = true ↔ b.timestamp.before a.timestamp = false := by
  have hswap : compare b.timestamp a.timestamp = (compare a.timestamp b.timestamp).swap :=
    Std.OrientedCmp.eq_swap
  rw [notLater, Timestamp.before, hswap]
  cases compare a.timestamp b.timestamp <;> decide

/-- Of two data of the same time neither is later. -/
private theorem notLater_of_eq {a b : Data} (h : a.timestamp = b.timestamp) :
    notLater a b = true := by
  rw [notLater_iff, h, Timestamp.not_before_self]

/-- The order that is sorted by is transitive. -/
private theorem notLater_trans (a b c : Data) (hab : notLater a b = true)
    (hbc : notLater b c = true) :
    notLater a c = true := by
  rw [notLater_iff] at *
  by_contra hca
  rw [Bool.not_eq_false] at hca
  -- `b` would be earlier than `a`
  have hba := Timestamp.before_of_not_before_of_before hbc hca
  rw [hab] at hba
  cases hba

/-- The order that is sorted by is total. -/
private theorem notLater_total (a b : Data) : (notLater a b || notLater b a) = true := by
  rw [Bool.or_eq_true, notLater_iff, notLater_iff]
  by_cases h : b.timestamp.before a.timestamp = true
  · exact .inr (Timestamp.not_before_of_before h)
  · exact .inl (by simpa using h)

/-- Sorting keeps the order of arrival among replies of the same time. -/
private theorem find?_mergeSort (group : List Data) (t : Timestamp) :
    (group.mergeSort notLater).find? (·.timestamp = t) = group.find? (·.timestamp = t) := by
  have hlevel : (group.filter (·.timestamp = t)).Pairwise fun a b => notLater a b = true := by
    refine List.pairwise_of_forall_sublist fun {a b} hab => notLater_of_eq ?_
    have ha : a ∈ group.filter (·.timestamp = t) := hab.subset (by simp)
    have hb : b ∈ group.filter (·.timestamp = t) := hab.subset (by simp)
    simp only [List.mem_filter, decide_eq_true_eq] at ha hb
    rw [ha.2, hb.2]
  -- the sort is stable, so it keeps this part of the group as it is, and it adds nothing to it
  have hsub : (group.filter (·.timestamp = t)).Sublist
      ((group.mergeSort notLater).filter (·.timestamp = t)) := by
    have hsorted := List.sublist_mergeSort notLater_trans notLater_total hlevel List.filter_sublist
    simpa [List.filter_filter] using hsorted.filter (·.timestamp = t)
  have heq : group.filter (·.timestamp = t) =
      (group.mergeSort notLater).filter (·.timestamp = t) :=
    hsub.eq_of_length ((List.mergeSort_perm group notLater).filter _).length_eq.symm
  rw [← List.head?_filter, ← List.head?_filter, heq]

/-- What is left when repeats are dropped was there before, in the same order. -/
private theorem dropRepeats_sublist (last : Option Timestamp) (l : List Data) :
    (dropRepeats last l).Sublist l := by
  induction l generalizing last with
  | nil => exact .slnil
  | cons e rest ih =>
    rw [dropRepeats]
    split
    · exact (ih last).cons e
    · exact (ih _).cons_cons e

/-- Behind a datum in the order nothing comes before its time. -/
private theorem not_before_of_notLater {e : Data} {rest : List Data}
    (he : ∀ x ∈ rest, notLater e x = true) :
    ∀ t, some e.timestamp = some t → ∀ x ∈ rest, x.timestamp.before t = false := by
  rintro t ht x hx
  cases ht
  exact notLater_iff.1 (he x hx)

/-- Of a sorted list the first datum of each time stays, if its time is not the last one. -/
private theorem mem_dropRepeats_iff {last : Option Timestamp} {l : List Data}
    (hsorted : l.Pairwise fun a b => notLater a b = true)
    (hlast : ∀ t, last = some t → ∀ e ∈ l, e.timestamp.before t = false) :
    d ∈ dropRepeats last l ↔
      last ≠ some d.timestamp ∧ l.find? (·.timestamp = d.timestamp) = some d := by
  -- `hlast` says that the list goes on where `last` was, so a time that was left does not return
  induction l generalizing last with
  | nil => simp [dropRepeats]
  | cons e rest ih =>
    obtain ⟨he, hrest⟩ := List.pairwise_cons.1 hsorted
    rw [dropRepeats]
    by_cases hrepeat : last = some e.timestamp
    · rw [if_pos hrepeat, ih hrest fun t ht x hx => hlast t ht x (List.mem_cons_of_mem _ hx)]
      refine and_congr_right fun hne => ?_
      -- the time of `d` is not that of `e`
      have hed : e.timestamp ≠ d.timestamp := fun hed => hne (hed ▸ hrepeat)
      rw [List.find?_cons_of_neg (by simpa using hed)]
    · rw [if_neg hrepeat, List.mem_cons, ih hrest (not_before_of_notLater he)]
      by_cases hed : e.timestamp = d.timestamp
      · rw [List.find?_cons_of_pos (by simpa using hed), hed]
        simp only [ne_eq, not_true_eq_false, false_and, or_false, Option.some.injEq]
        exact ⟨fun h => ⟨hed ▸ hrepeat, h.symm⟩, fun h => h.2.symm⟩
      · rw [List.find?_cons_of_neg (by simpa using hed)]
        have hde : d ≠ e := fun hde => hed (hde ▸ rfl)
        simp only [hde, false_or, ne_eq, Option.some.injEq, hed, not_false_eq_true, true_and]
        refine ⟨fun hfind => ⟨fun hlast' => ?_, hfind⟩, And.right⟩
        -- `e` would come no earlier than the last time, and no later than `d`
        have hdmem : d ∈ rest := List.mem_of_find?_eq_some hfind
        have hle := hlast _ hlast' e List.mem_cons_self
        exact hed (Timestamp.eq_of_not_before hle (notLater_iff.1 (he d hdmem)))

/-- The history has the first reply of each time. -/
theorem mem_history_iff : d ∈ history group ↔ group.find? (·.timestamp = d.timestamp) = some d := by
  have hsorted := List.pairwise_mergeSort notLater_trans notLater_total group
  rw [history, mem_dropRepeats_iff hsorted (by simp), find?_mergeSort]
  simp

/-- When repeats are dropped, what is left is strictly sorted. -/
private theorem dropRepeats_sorted {l : List Data}
    (hsorted : l.Pairwise fun a b => notLater a b = true)
    (last : Option Timestamp) :
    (dropRepeats last l).Pairwise fun a b => a.timestamp.before b.timestamp = true := by
  induction l generalizing last with
  | nil => exact .nil
  | cons e rest ih =>
    obtain ⟨he, hrest⟩ := List.pairwise_cons.1 hsorted
    rw [dropRepeats]
    split
    · exact ih hrest last
    · -- what is left comes no earlier than `e`, and not at its time
      refine List.pairwise_cons.2 ⟨fun d hd => ?_, ih hrest _⟩
      have hmem : d ∈ rest := (dropRepeats_sublist _ _).subset hd
      have hnot : d.timestamp.before e.timestamp = false := notLater_iff.1 (he d hmem)
      have hne := ((mem_dropRepeats_iff hrest (not_before_of_notLater he)).1 hd).1
      by_contra hbefore
      have heq := Timestamp.eq_of_not_before (by simpa using hbefore) hnot
      exact hne (congrArg some heq)

/-- The history is in the order of time. -/
theorem history_sorted (group : List Data) :
    (history group).Pairwise fun a b => a.timestamp.before b.timestamp = true :=
  dropRepeats_sorted (List.pairwise_mergeSort notLater_trans notLater_total group) none

/-- Each time of a group is in its history. -/
theorem exists_mem_history {e : Data} (he : e ∈ group) :
    ∃ d ∈ history group, d.timestamp = e.timestamp := by
  have hsome : (group.find? (·.timestamp = e.timestamp)).isSome = true :=
    List.find?_isSome.2 ⟨e, he, by simp⟩
  obtain ⟨d, hd⟩ := Option.isSome_iff_exists.1 hsome
  have htime : d.timestamp = e.timestamp := by simpa using List.find?_some hd
  exact ⟨d, mem_history_iff.2 (htime ▸ hd), htime⟩

/-- The last of the history is what no reply of the group is later than. -/
private theorem getLast?_history_iff :
    (history group).getLast? = some d ↔
      d ∈ history group ∧ ∀ e ∈ group, d.timestamp.before e.timestamp = false := by
  have hsorted := history_sorted group
  constructor
  · intro hlast
    obtain ⟨earlier, hsplit⟩ := List.getLast?_eq_some_iff.1 hlast
    rw [hsplit] at hsorted
    refine ⟨List.mem_of_getLast? hlast, fun e he => ?_⟩
    -- `e` itself may have been dropped, but its time is in the history
    obtain ⟨f, hf, htime⟩ := exists_mem_history he
    rw [hsplit] at hf
    rw [← htime]
    rcases List.mem_append.1 hf with hf | hf
    · have hbefore := (List.pairwise_append.1 hsorted).2.2 f hf d (by simp)
      exact Timestamp.not_before_of_before hbefore
    · rw [List.mem_singleton.1 hf, Timestamp.not_before_self]
  · rintro ⟨hd, hmax⟩
    obtain ⟨z, hlast⟩ := Option.ne_none_iff_exists'.1
      (mt List.getLast?_eq_none_iff.1 (List.ne_nil_of_mem hd))
    obtain ⟨earlier, hsplit⟩ := List.getLast?_eq_some_iff.1 hlast
    have hz : z ∈ group :=
      List.mem_of_find?_eq_some (mem_history_iff.1 (List.mem_of_getLast? hlast))
    rw [hsplit] at hd hsorted
    rcases List.mem_append.1 hd with hd | hd
    · -- `d` would come before the last one
      have hbefore := (List.pairwise_append.1 hsorted).2.2 d hd z (by simp)
      rw [hmax z hz] at hbefore
      cases hbefore
    · rw [hlast, List.mem_singleton.1 hd]

/-- What a group contributes: the first reply of each time, or of the last time only. -/
theorem mem_ofGroup_iff {series : Bool} :
    d ∈ ofGroup series group ↔ group.find? (·.timestamp = d.timestamp) = some d ∧
      (series = false → ∀ e ∈ group, d.timestamp.before e.timestamp = false) := by
  rw [ofGroup, ← mem_history_iff]
  cases series with
  | true => simp
  | false => simp [getLast?_history_iff]

/-- What is shown of a path is strictly sorted by time. -/
private theorem ofGroup_sorted (series : Bool) (group : List Data) :
    (ofGroup series group).Pairwise fun a b => a.timestamp.before b.timestamp = true := by
  cases series with
  | true => exact history_sorted group
  | false =>
    rw [ofGroup, if_neg (by simp)]
    cases (history group).getLast? with
    | none => exact .nil
    | some d => exact List.pairwise_singleton _ d

/-! ## The result -/

/-- The group of each path has the replies of that path. -/
theorem mem_groups_iff {p : Path} :
    (p, group) ∈ (empty.pushAll ds).groups.toList ↔
      (∃ d ∈ ds, d.path = p) ∧ group = ds.filter fun d => d.path = p := by
  have hempty : (empty.groups.find? p).getD [] = [] := rfl
  have hnone : empty.groups.find? p = none := rfl
  rw [← SortedMap.find?_eq_some_iff, find?_pushAll, hempty, hnone, List.nil_append]
  split
  · next hex => simpa [hex] using eq_comm
  · next hnex => simp [hnex]

/-- A reply is the first one with its path and time. -/
def IsFirst (ds : List Data) (d : Data) : Prop := ds.find? (·.key = d.key) = some d

/-- The first datum of a key is one of the data. -/
theorem IsFirst.mem (h : IsFirst ds d) : d ∈ ds := List.mem_of_find?_eq_some h

/-- Every datum has a first one of its key. -/
theorem exists_isFirst (hd : d ∈ ds) : ∃ e, IsFirst ds e ∧ e.key = d.key := by
  have hsome : (ds.find? (·.key = d.key)).isSome = true := List.find?_isSome.2 ⟨d, hd, by simp⟩
  obtain ⟨e, he⟩ := Option.isSome_iff_exists.1 hsome
  have hkey : e.key = d.key := by simpa using List.find?_some he
  exact ⟨e, by rwa [IsFirst, hkey], hkey⟩

/-- The result has the first reply for each path and time, or for the last time of each path
only. -/
theorem mem_finish_pushAll_iff {series : Bool} :
    d ∈ (empty.pushAll ds).finish series ↔ IsFirst ds d ∧
      (series = false → ∀ e ∈ ds, e.path = d.path → d.timestamp.before e.timestamp = false) := by
  -- the first reply of a key among those of its path is the first of all
  have hfind (p : Path) (hp : d.path = p) :
      (ds.filter fun e => e.path = p).find? (·.timestamp = d.timestamp) = some d ↔
        IsFirst ds d := by
    rw [List.find?_filter, IsFirst]
    simp only [Data.key_eq_iff, hp, decide_eq_true_eq]
  rw [finish, SortedMap.values, List.flatMap_map, List.mem_flatMap]
  constructor
  · rintro ⟨⟨p, group⟩, hmem, hd⟩
    obtain ⟨-, rfl⟩ := mem_groups_iff.1 hmem
    obtain ⟨hfirst, hlast⟩ := mem_ofGroup_iff.1 hd
    have hp : d.path = p := by
      simpa using (List.mem_filter.1 (List.mem_of_find?_eq_some hfirst)).2
    refine ⟨(hfind p hp).1 hfirst, fun hs e he hpath => hlast hs e ?_⟩
    simpa [hpath, hp] using he
  · rintro ⟨hfirst, hlast⟩
    refine ⟨(d.path, _), mem_groups_iff.2 ⟨⟨d, hfirst.mem, rfl⟩, rfl⟩, mem_ofGroup_iff.2 ⟨?_, ?_⟩⟩
    · exact (hfind _ rfl).2 hfirst
    · intro hs e he
      have he := List.mem_filter.1 he
      exact hlast hs e he.1 (by simpa using he.2)

/-- The result is in the order of the paths, and for each path in the order of time. -/
theorem finish_pushAll_sorted (ds : List Data) (series : Bool) :
    ((empty.pushAll ds).finish series).Pairwise fun d e => Precedes d.key e.key := by
  have hpath {e : Path × List Data} (he : e ∈ (empty.pushAll ds).groups.toList) {d : Data}
      (hd : d ∈ ofGroup series e.2) : d.path = e.1 := by
    obtain ⟨-, hgroup⟩ := mem_groups_iff.1 he
    have hd := List.mem_of_find?_eq_some (mem_ofGroup_iff.1 hd).1
    rw [hgroup] at hd
    simpa using (List.mem_filter.1 hd).2
  rw [finish, SortedMap.values, List.flatMap_map, List.pairwise_flatMap]
  -- within a path by time, and from path to path by their order
  constructor
  · intro e he
    refine (ofGroup_sorted series e.2).imp_of_mem fun {a b} ha hb hlt => .inr ⟨?_, hlt⟩
    exact (hpath he ha).trans (hpath he hb).symm
  · refine (empty.pushAll ds).groups.sorted.imp_of_mem fun {e e'} he he' hlt d hd d' hd' => .inl ?_
    rw [Data.key, Data.key, hpath he hd, hpath he' hd']
    exact hlt

/-! ## Replies that agree -/

/-- All replies of each path are the same. -/
def Agree (ds : List Data) : Prop := ∀ d ∈ ds, ∀ d' ∈ ds, d.path = d'.path → d = d'

/-- The result has every datum that was answered, and no other. -/
theorem mem_finish_iff (h : Agree ds) (series : Bool) (d : Data) :
    d ∈ (empty.pushAll ds).finish series ↔ d ∈ ds := by
  rw [mem_finish_pushAll_iff]
  constructor
  · exact fun hd => hd.1.mem
  · intro hd
    obtain ⟨e, he, hkey⟩ := exists_isFirst hd
    obtain rfl := h e he.mem d hd (Data.key_eq_iff.1 hkey).1
    refine ⟨he, fun _ f hf hpath => ?_⟩
    rw [h f hf e hd hpath, Timestamp.not_before_self]

/-- The result is in the order of the paths, and has no path twice. -/
theorem finish_sorted (h : Agree ds) (series : Bool) :
    ((empty.pushAll ds).finish series).Pairwise fun d d' => compare d.path d'.path = .lt := by
  refine (finish_pushAll_sorted ds series).imp_of_mem fun {d e} hd he hde => ?_
  rcases hde with hlt | ⟨hpath, hbefore⟩
  · exact hlt
  · rw [mem_finish_iff h] at hd he
    rw [h d hd e he hpath, Timestamp.not_before_self] at hbefore
    cases hbefore

end Aggregator

end PathSpace
