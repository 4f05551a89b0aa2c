import PathSpace.Pattern.Search
import Mathlib.Data.List.Basic
/-!
# What an expression comes to

An expression may match the text behind a place in several ways, or in none.  `Regex.outcomes`
tries every choice in the order in which it is written, and lists all ways in this order, so the
first of them is the one that counts.  Nothing is said here about how a search goes on.

## Key results

- `Regex.outcomes`: all matches that begin at a place, the most wanted one first
- `goesOn_outcomes`: a match never goes back, and goes on if the expression consumes
- `unlimited_eq`: a repetition without end is one repetition, and then the rest of them
-/

namespace PathSpace

namespace Found

/-- Goes over the next character `x`, of which `rest` is what follows. -/
def pass (f : Found) (x : Char) (rest : List Char) : Found :=
  { f with behind := f.behind.behind x rest }

/-- Remembers the place under a number. -/
def mark (f : Found) (i : Nat) : Found := { f with marks := (i, f.behind.place) :: f.marks }

/-- How many characters are left. -/
def left (f : Found) : Nat := f.behind.rest.length

@[simp] theorem mark_behind (f : Found) (i : Nat) : (f.mark i).behind = f.behind := rfl

end Found

namespace Regex

variable {step : Found → List Found} {f g : Found}

/-! ## Repetitions -/

/-- A step `n` times, one behind the other. -/
def inRow (step : Found → List Found) : (n : Nat) → Found → List Found
  | 0, f => [f]
  | n + 1, f => (step f).flatMap (inRow step n)

/-- What comes of going on and of leaving off, in the order of greed. -/
def prefer {α : Type} (greedy : Bool) (more less : List α) : List α :=
  if greedy then more ++ less else less ++ more

/-- A step up to `n` times, as often as possible or as seldom. -/
def upTo (greedy : Bool) (step : Found → List Found) : (n : Nat) → Found → List Found
  | 0, f => [f]
  | n + 1, f => prefer greedy ((step f).flatMap (upTo greedy step n)) [f]

/-- A step any number of times.  One that consumes can be taken no more often than there are
characters. -/
def unlimited (greedy : Bool) (step : Found → List Found) (f : Found) : List Found :=
  upTo greedy step f.left f

/-- All matches that begin behind `f`, the most wanted one first. -/
def outcomes : Regex → Found → List Found
  | .empty, f => [f]
  | .set s, f =>
    match f.behind.rest with
    | [] => []
    | x :: rest => if s.contains x then [f.pass x rest] else []
  | .look l, f => if l.holds f.behind then [f] else []
  | .cat a b, f => (outcomes a f).flatMap (outcomes b)
  | .alt a b, f => outcomes a f ++ outcomes b f
  | .group i a, f => (outcomes a (f.mark (2 * i))).map (·.mark (2 * i + 1))
  | .repeated a min (some max) greedy, f =>
    (inRow (outcomes a) min f).flatMap (upTo greedy (outcomes a) (max - min))
  | .repeated a min none greedy, f =>
    (inRow (outcomes a) min f).flatMap (unlimited greedy (outcomes a))

/-- What is preferred and what is not are both possible. -/
theorem mem_prefer {α : Type} {greedy : Bool} {more less : List α} {a : α} :
    a ∈ prefer greedy more less ↔ a ∈ more ∨ a ∈ less := by
  rw [prefer]
  split
  · exact List.mem_append
  · rw [List.mem_append, or_comm]

/-- What goes on from either keeps the preference. -/
theorem flatMap_prefer {α β : Type} (greedy : Bool) (more less : List α) (k : α → List β) :
    (prefer greedy more less).flatMap k =
      prefer greedy (more.flatMap k) (less.flatMap k) := by
  rw [prefer, prefer]
  split <;> exact List.flatMap_append

/-- The last of several steps may be taken apart as well as the first one. -/
theorem inRow_succ (step : Found → List Found) (n : Nat) (f : Found) :
    inRow step (n + 1) f = (inRow step n f).flatMap step := by
  induction n generalizing f with
  | zero =>
    rw [inRow, inRow, List.flatMap_singleton]
    exact List.flatMap_singleton' (step f)
  | succ n ih =>
    rw [inRow, inRow, List.flatMap_assoc]
    exact List.flatMap_congr fun g _ => ih g

/-! ## Matches go on -/

/-- A step that goes over at least `k` characters. -/
def GoesOn (k : Nat) (step : Found → List Found) : Prop := ∀ f, ∀ g ∈ step f, g.left + k ≤ f.left

namespace GoesOn

variable {k m : Nat} {step' : Found → List Found}

/-- What goes on by so many goes on by fewer. -/
theorem mono (h : GoesOn k step) (hm : m ≤ k) : GoesOn m step := fun f g hg =>
  Nat.le_trans (Nat.add_le_add_left hm _) (h f g hg)

/-- Two steps one after the other go on by both. -/
theorem flatMap (h : GoesOn k step) (h' : GoesOn m step') :
    GoesOn (k + m) fun f => (step f).flatMap step' := by
  intro f g hg
  obtain ⟨f', hf', hg⟩ := List.mem_flatMap.1 hg
  have hfirst := h f f' hf'
  have hsecond := h' f' g hg
  omega

private theorem inRow (h : GoesOn k step) (n : Nat) : GoesOn (n * k) (inRow step n) := by
  induction n with
  | zero => simp [GoesOn, Regex.inRow]
  | succ n ih => exact (h.flatMap ih).mono (Nat.le_of_eq (by rw [Nat.add_one_mul, Nat.add_comm]))

private theorem upTo (h : GoesOn 0 step) (greedy : Bool) (n : Nat) :
    GoesOn 0 (upTo greedy step n) := by
  induction n with
  | zero => simp [GoesOn, Regex.upTo]
  | succ n ih =>
    intro f g hg
    rcases mem_prefer.1 hg with hg | hg
    · exact h.flatMap ih f g hg
    · exact (List.mem_singleton.1 hg) ▸ Nat.le_refl _

end GoesOn

/-- A match never goes back, and one of an expression that consumes has a character. -/
theorem goesOn_outcomes (r : Regex) : GoesOn (if r.consumes then 1 else 0) r.outcomes := by
  induction r with
  | empty => simp [GoesOn, outcomes, consumes]
  | set s =>
    intro f g hg
    rw [outcomes] at hg
    split at hg
    · cases hg
    · next x rest hrest =>
      split at hg
      · simp [List.mem_singleton.1 hg, Found.left, hrest, consumes, Found.pass, Cursor.behind]
      · cases hg
  | look l =>
    intro f g hg
    rw [outcomes] at hg
    split at hg
    · exact (List.mem_singleton.1 hg) ▸ Nat.le_refl _
    · cases hg
  | cat a b iha ihb =>
    refine (iha.flatMap ihb).mono ?_
    cases ha : a.consumes <;> cases hb : b.consumes <;> simp [consumes, ha, hb]
  | alt a b iha ihb =>
    intro f g hg
    rcases List.mem_append.1 hg with hg | hg
    · refine iha.mono ?_ f g hg
      cases ha : a.consumes <;> cases hb : b.consumes <;> simp [consumes, ha, hb]
    · refine ihb.mono ?_ f g hg
      cases ha : a.consumes <;> cases hb : b.consumes <;> simp [consumes, ha, hb]
  | group i a ih =>
    intro f g hg
    obtain ⟨g', hg', rfl⟩ := List.mem_map.1 hg
    exact ih (f.mark (2 * i)) g' hg'
  | repeated a min max greedy ih =>
    -- only the rounds that are required can be counted on to consume anything
    have hrow : GoesOn (if (Regex.repeated a min max greedy).consumes then 1 else 0)
        (inRow a.outcomes min) := by
      refine (ih.inRow min).mono ?_
      cases ha : a.consumes <;> simp [consumes, ha]
      split <;> omega
    have hproceeds := ih.mono (Nat.zero_le _)
    cases max with
    | some max => exact hrow.flatMap (hproceeds.upTo greedy _)
    | none => exact hrow.flatMap fun f => hproceeds.upTo greedy f.left f

/-- A pattern that consumes something goes on. -/
theorem goesOn_of_consumes {r : Regex} (hr : r.consumes = true) : GoesOn 1 r.outcomes := by
  have hgoes := goesOn_outcomes r
  rwa [if_pos hr] at hgoes

/-! ## Repetitions without end -/

/-- More repetitions than there are characters make no difference. -/
theorem upTo_eq_unlimited (h : GoesOn 1 step) (greedy : Bool) {n : Nat} (hn : f.left ≤ n) :
    upTo greedy step n f = unlimited greedy step f := by
  rw [unlimited]
  -- both sides take one step at a time, and the characters become fewer with each of them
  induction hk : f.left using Nat.strongRecOn generalizing f n with
  | _ k ih =>
    cases n with
    | zero => rw [show k = 0 by omega]
    | succ n =>
      have hmore (m : Nat) (hm : k ≤ m + 1) : (step f).flatMap (upTo greedy step m) =
          (step f).flatMap (unlimited greedy step) := by
        refine List.flatMap_congr fun g hg => ?_
        have hg := h f g hg
        exact ih g.left (by omega) (by omega) rfl
      cases k with
      | zero =>
        have hnone : step f = [] :=
          List.eq_nil_iff_forall_not_mem.2 fun g hg => by have := h f g hg; omega
        simp [upTo, prefer, hnone]
      | succ k => rw [upTo, upTo, hmore n (by omega), hmore k (Nat.le_refl _)]

/-- A repetition without end is one repetition, and then the rest of them. -/
theorem unlimited_eq (h : GoesOn 1 step) (greedy : Bool) (f : Found) :
    unlimited greedy step f = prefer greedy ((step f).flatMap (unlimited greedy step)) [f] := by
  have hmore : (step f).flatMap (upTo greedy step f.left) =
      (step f).flatMap (unlimited greedy step) :=
    List.flatMap_congr fun g hg => upTo_eq_unlimited h greedy (Nat.le_of_succ_le (h f g hg))
  rw [← upTo_eq_unlimited h greedy (Nat.le_succ f.left), upTo, hmore]

end Regex

end PathSpace
