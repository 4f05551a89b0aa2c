import PathSpace.Proofs.Pattern.Outcomes
import PathSpace.Proofs.Pattern.Program
import Mathlib.Computability.Language
import Mathlib.Data.List.Forall2
/-!
# Plain expressions

A plain expression asks for characters only: it demands nothing of places and remembers nothing.
What it matches is the same wherever a text stands, and whatever stands behind a character that it
has no use for.

## Key results

- `Regex.stepsAlike_outcomes`: the matches in a text, and those in the same text at another place,
  with more behind it
- `Regex.spells_outcomes`: the matches are the words of the expression
- `Regex.lead?`: the match at the start of a text, with the text behind it
- `Regex.Plain.lead?_append`: a text that begins with a useless character does not change what is
  matched before it
-/

namespace PathSpace

/-- Goes over some text, of which `rest` is what follows. -/
def Cursor.past (c : Cursor) (w rest : List Char) : Cursor :=
  ⟨c.place + w.length, w.getLast?.or c.before, rest⟩

theorem Cursor.past_nil (c : Cursor) : c.past [] c.rest = c := rfl

/-- Past two words one after the other. -/
theorem Cursor.past_past (c : Cursor) (w w' rest rest' : List Char) :
    (c.past w rest).past w' rest' = c.past (w ++ w') rest' := by
  simp [past, Nat.add_assoc, List.getLast?_append, Option.or_assoc]

namespace Found

@[inherit_doc Cursor.past]
def past (f : Found) (w rest : List Char) : Found := { f with behind := f.behind.past w rest }

@[simp] theorem rest_past (f : Found) (w rest : List Char) : (f.past w rest).behind.rest = rest :=
  rfl

@[simp] theorem place_past (f : Found) (w rest : List Char) :
    (f.past w rest).behind.place = f.behind.place + w.length := rfl

private theorem past_nil (f : Found) : f.past [] f.behind.rest = f := rfl

/-- Past two words one after the other. -/
private theorem past_past (f : Found) (w w' rest rest' : List Char) :
    (f.past w rest).past w' rest' = f.past (w ++ w') rest' :=
  congrArg (Found.mk f.marks) (f.behind.past_past ..)

theorem pass_eq_past (f : Found) (x : Char) (rest : List Char) :
    f.pass x rest = f.past [x] rest := rfl

end Found

namespace Regex

/-- Whether an expression asks for characters only. -/
def isPlain : Regex → Bool
  | .empty | .set _ => true
  | .look _ | .group .. => false
  | .cat a b | .alt a b => a.isPlain && b.isPlain
  | .repeated a _ _ _ => a.isPlain

/-- Whether no match of an expression can have a character. -/
def avoids (x : Char) : Regex → Bool
  | .empty | .look _ => true
  | .set s => !s.contains x
  | .cat a b | .alt a b => a.avoids x && b.avoids x
  | .repeated a _ _ _ | .group _ a => a.avoids x

/-! ## The same text at two places -/

/-- The same text has been gone over behind `f` and behind `f'`, where `tail` is behind all of the
first text. -/
def Alike (tail : List Char) (f f' g g' : Found) : Prop :=
  ∃ w rest, f.behind.rest = w ++ rest ∧ g = f.past w rest ∧ g' = f'.past w (rest ++ tail)

/-- A step does the same for a text at two places. -/
def StepsAlike (tail : List Char) (step : Found → List Found) : Prop :=
  ∀ f f' : Found, f'.behind.rest = f.behind.rest ++ tail →
    List.Forall₂ (Alike tail f f') (step f) (step f')

variable {tail : List Char} {step : Found → List Found}

theorem Alike.refl {f f' : Found} (h : f'.behind.rest = f.behind.rest ++ tail) :
    Alike tail f f' f f' :=
  ⟨[], f.behind.rest, rfl, f.past_nil, by rw [← h, f'.past_nil]⟩

namespace StepsAlike

variable {step' : Found → List Found}

/-- Two steps one after the other match alike if each of them does. -/
theorem flatMap (h : StepsAlike tail step) (h' : StepsAlike tail step') :
    StepsAlike tail fun f => (step f).flatMap step' := by
  intro f f' hrest
  refine List.rel_flatMap (h f f' hrest) fun g g' hg => ?_
  obtain ⟨w, rest, hw, rfl, rfl⟩ := hg
  refine (h' _ _ rfl).imp fun k k' hk => ?_
  obtain ⟨v, rest', hv, rfl, rfl⟩ := hk
  rw [Found.rest_past] at hv
  exact ⟨w ++ v, rest', by rw [hw, hv, List.append_assoc], f.past_past .., f'.past_past ..⟩

/-- Two choices match alike if each of them does. -/
theorem append (h : StepsAlike tail step) (h' : StepsAlike tail step') :
    StepsAlike tail fun f => step f ++ step' f := fun f f' hrest =>
  List.rel_append (h f f' hrest) (h' f f' hrest)

/-- A number of steps in a row match alike if one step does. -/
private theorem inRow (h : StepsAlike tail step) (n : Nat) : StepsAlike tail (inRow step n) := by
  induction n with
  | zero => exact fun f f' hrest => .cons (.refl hrest) .nil
  | succ n ih => exact h.flatMap ih

/-- Up to a number of steps match alike if one step does. -/
private theorem upTo (h : StepsAlike tail step) (greedy : Bool) (n : Nat) :
    StepsAlike tail (upTo greedy step n) := by
  have hstay : StepsAlike tail fun f => [f] := fun f f' hrest => .cons (.refl hrest) .nil
  induction n with
  | zero => exact hstay
  | succ n ih =>
    cases greedy with
    | false => exact hstay.append (h.flatMap ih)
    | true => exact (h.flatMap ih).append hstay

/-- There may be more characters at the second place, but no more repetitions. -/
private theorem unlimited (h : StepsAlike tail step) (hstep : GoesOn 1 step) (greedy : Bool) :
    StepsAlike tail (unlimited greedy step) := by
  intro f f' hrest
  have hle : f.left ≤ f'.left := by rw [Found.left, Found.left, hrest]; simp
  rw [← upTo_eq_unlimited hstep greedy hle]
  exact h.upTo greedy f'.left f f' hrest

end StepsAlike

/-- A plain expression does the same for a text at two places, if what is behind the text at the
second place begins with a character that it has no use for. -/
theorem stepsAlike_outcomes {r : Regex} (hplain : r.isPlain = true) (hsteady : r.isSteady = true)
    (htail : ∀ x ∈ tail.head?, r.avoids x = true) : StepsAlike tail r.outcomes := by
  induction r with
  | empty => exact fun f f' hrest => .cons (.refl hrest) .nil
  | set s =>
    intro f f' hrest
    simp only [outcomes, hrest]
    cases hf : f.behind.rest with
    | nil =>
      -- at the end of the text the set would have to take what is behind it
      cases tail with
      | nil => exact .nil
      | cons x tail => simpa [avoids] using htail x rfl
    | cons x rest =>
      rw [List.cons_append]
      by_cases hx : s.contains x = true
      · simp only [if_pos hx]
        exact .cons ⟨[x], rest, hf, rfl, rfl⟩ .nil
      · simp only [if_neg hx]
        exact .nil
  | look l => cases hplain
  | cat a b iha ihb =>
    simp only [isPlain, isSteady, avoids, Bool.and_eq_true] at hplain hsteady htail
    exact (iha hplain.1 hsteady.1 fun x hx => (htail x hx).1).flatMap
      (ihb hplain.2 hsteady.2 fun x hx => (htail x hx).2)
  | alt a b iha ihb =>
    simp only [isPlain, isSteady, avoids, Bool.and_eq_true] at hplain hsteady htail
    exact (iha hplain.1 hsteady.1 fun x hx => (htail x hx).1).append
      (ihb hplain.2 hsteady.2 fun x hx => (htail x hx).2)
  | repeated a min max greedy ih =>
    simp only [isSteady, Bool.and_eq_true] at hsteady
    have hpart := ih hplain hsteady.1 htail
    cases max with
    | some max => exact (hpart.inRow min).flatMap (hpart.upTo greedy _)
    | none =>
      have hconsumes := goesOn_of_consumes hsteady.2
      exact (hpart.inRow min).flatMap (hpart.unlimited hconsumes greedy)
  | group i a ih => cases hplain

/-! ## Words -/

/-- The words of one character of a set. -/
def letters (s : CharSet) : Language Char := {w | ∃ x, s.contains x = true ∧ w = [x]}

/-- Up to `n` words in a row. -/
def powers (L : Language Char) (n : Nat) : Language Char := {w | ∃ k ≤ n, w ∈ L ^ k}

/-- The letters of a set are its words of length one. -/
theorem mem_letters {s : CharSet} {w : List Char} :
    w ∈ letters s ↔ ∃ x, s.contains x = true ∧ w = [x] := Iff.rfl

/-- A word of up to so many parts. -/
private theorem mem_powers {L : Language Char} {n : Nat} {w : List Char} :
    w ∈ powers L n ↔ ∃ k ≤ n, w ∈ L ^ k := Iff.rfl

/-- Up to one part more: a first part and the rest, or nothing. -/
private theorem powers_succ (L : Language Char) (n : Nat) :
    powers L (n + 1) = L * powers L n + 1 := by
  ext w
  rw [Language.mem_add, Language.mem_mul, Language.mem_one]
  constructor
  · rintro ⟨k, hk, hw⟩
    cases k with
    | zero => exact .inr hw
    | succ k =>
      rw [pow_succ'] at hw
      obtain ⟨v, hv, u, hu, rfl⟩ := hw
      exact .inl ⟨v, hv, u, ⟨k, Nat.le_of_succ_le_succ hk, hu⟩, rfl⟩
  · rintro (⟨v, hv, u, ⟨k, hk, hu⟩, rfl⟩ | rfl)
    · exact ⟨k + 1, Nat.succ_le_succ hk, pow_succ' L k ▸ Language.append_mem_mul hv hu⟩
    · exact ⟨0, Nat.zero_le _, rfl⟩

/-- The texts that an expression can match, if it is a plain one. -/
def words : Regex → Language Char
  | .empty | .look _ => 1
  | .set s => letters s
  | .cat a b => a.words * b.words
  | .alt a b => a.words + b.words
  | .repeated a min (some max) _ => a.words ^ min * powers a.words (max - min)
  | .repeated a min none _ => a.words ^ min * KStar.kstar a.words
  | .group _ a => a.words

/-- A step goes over the words of a language. -/
def Spells (L : Language Char) (step : Found → List Found) : Prop :=
  ∀ f g, g ∈ step f ↔ ∃ w ∈ L, ∃ rest, f.behind.rest = w ++ rest ∧ g = f.past w rest

namespace Spells

variable {L L' : Language Char} {step' : Found → List Found}

/-- To stay in place spells the empty word. -/
private theorem stay : Spells 1 fun f => [f] := by
  intro f g
  rw [List.mem_singleton]
  constructor
  · rintro rfl
    exact ⟨[], rfl, _, rfl, rfl⟩
  · rintro ⟨w, rfl, rest, hrest, rfl⟩
    rw [← List.nil_append rest, ← hrest, Found.past_nil]

/-- Two steps one after the other spell the words of the one followed by those of the other. -/
theorem flatMap (h : Spells L step) (h' : Spells L' step') :
    Spells (L * L') fun f => (step f).flatMap step' := by
  intro f k
  rw [List.mem_flatMap]
  constructor
  · rintro ⟨g, hg, hk⟩
    obtain ⟨w, hw, rest, hrest, rfl⟩ := (h f g).1 hg
    obtain ⟨v, hv, rest', hrest', rfl⟩ := (h' _ k).1 hk
    rw [Found.rest_past] at hrest'
    exact ⟨w ++ v, Language.append_mem_mul hw hv, rest',
      by rw [hrest, hrest', List.append_assoc], f.past_past ..⟩
  · rintro ⟨_, ⟨w, hw, v, hv, rfl⟩, rest, hrest, rfl⟩
    refine ⟨f.past w (v ++ rest), (h f _).2 ⟨w, hw, v ++ rest, ?_, rfl⟩,
      (h' _ _).2 ⟨v, hv, rest, rfl, (f.past_past ..).symm⟩⟩
    rw [hrest, List.append_assoc]

/-- Two choices spell the words of either. -/
theorem append (h : Spells L step) (h' : Spells L' step') :
    Spells (L + L') fun f => step f ++ step' f := by
  intro f g
  rw [List.mem_append, h f g, h' f g]
  simp only [Language.mem_add, or_and_right, exists_or]

/-- A number of steps in a row spell the power. -/
private theorem inRow (h : Spells L step) (n : Nat) : Spells (L ^ n) (inRow step n) := by
  induction n with
  | zero => exact stay
  | succ n ih =>
    rw [pow_succ']
    exact h.flatMap ih

/-- Up to a number of steps spell the powers up to there. -/
private theorem upTo (h : Spells L step) (greedy : Bool) (n : Nat) :
    Spells (powers L n) (upTo greedy step n) := by
  induction n with
  | zero =>
    have hone : powers L 0 = 1 := by ext w; simp [mem_powers]
    exact hone ▸ stay
  | succ n ih =>
    intro f g
    rw [powers_succ, Regex.upTo, mem_prefer, ← List.mem_append]
    exact (h.flatMap ih).append stay f g

private theorem unlimited (h : Spells L step) (hstep : GoesOn 1 step) (greedy : Bool) :
    Spells (KStar.kstar L) (unlimited greedy step) := by
  intro f g
  have hmem (w : List Char) : w ∈ KStar.kstar L ↔ ∃ k, w ∈ L ^ k := by
    rw [Language.kstar_eq_iSup_pow, Language.mem_iSup]
  constructor
  · intro hg
    obtain ⟨w, ⟨k, -, hw⟩, hrest⟩ := (h.upTo greedy f.left f g).1 hg
    exact ⟨w, (hmem w).2 ⟨k, hw⟩, hrest⟩
  · rintro ⟨w, hw, hrest⟩
    obtain ⟨k, hw⟩ := (hmem w).1 hw
    -- as many repetitions as the word has are enough, and so are as many as there are characters
    rw [← upTo_eq_unlimited hstep greedy (Nat.le_max_right k f.left)]
    exact (h.upTo greedy _ f g).2 ⟨w, ⟨k, Nat.le_max_left .., hw⟩, hrest⟩

end Spells

/-- The matches of a plain expression are its words, wherever the text goes on with them. -/
theorem spells_outcomes {r : Regex} (hplain : r.isPlain = true) (hsteady : r.isSteady = true) :
    Spells r.words r.outcomes := by
  induction r with
  | empty => exact .stay
  | set s =>
    intro f g
    simp only [words, mem_letters]
    rw [outcomes]
    cases hf : f.behind.rest with
    | nil => simp
    | cons x rest =>
      -- the character ahead is in the set and is passed, or there is no match
      by_cases hx : s.contains x = true
      · simp [hx, Found.pass_eq_past]
      · simp [hx]
  | look l => cases hplain
  | cat a b iha ihb =>
    simp only [isPlain, isSteady, Bool.and_eq_true] at hplain hsteady
    exact (iha hplain.1 hsteady.1).flatMap (ihb hplain.2 hsteady.2)
  | alt a b iha ihb =>
    simp only [isPlain, isSteady, Bool.and_eq_true] at hplain hsteady
    exact (iha hplain.1 hsteady.1).append (ihb hplain.2 hsteady.2)
  | repeated a min max greedy ih =>
    simp only [isSteady, Bool.and_eq_true] at hsteady
    have hpart := ih hplain hsteady.1
    cases max with
    | some max => exact (hpart.inRow min).flatMap (hpart.upTo greedy _)
    | none =>
      have hconsumes := goesOn_of_consumes hsteady.2
      exact (hpart.inRow min).flatMap (hpart.unlimited hconsumes greedy)
  | group i a ih => cases hplain

/-! ## The match at the start of a text -/

/-- The match that counts at the start of a text, and the text behind it. -/
def lead? (r : Regex) (text : List Char) : Option (List Char × List Char) :=
  (r.outcomes ⟨[], { rest := text }⟩).head?.map fun g =>
    (text.take g.behind.place, g.behind.rest)

variable {r : Regex} {text w rest : List Char}

/-- The first outcome of a plain expression anywhere is the match at the start of the text that is
there. -/
private theorem head?_outcomes (hplain : r.isPlain = true) (hsteady : r.isSteady = true)
    (htail : ∀ x ∈ tail.head?, r.avoids x = true) {f : Found} (hf : f.behind.rest = text ++ tail) :
    (r.outcomes f).head? = (r.lead? text).map fun m => f.past m.1 (m.2 ++ tail) := by
  have halike := stepsAlike_outcomes hplain hsteady htail ⟨[], { rest := text }⟩ f hf
  rw [lead?]
  generalize r.outcomes f = l' at halike ⊢
  generalize r.outcomes ⟨[], { rest := text }⟩ = l at halike ⊢
  cases halike with
  | nil => rfl
  | cons hg _ =>
    obtain ⟨w, rest, hw, rfl, rfl⟩ := hg
    have hw : text = w ++ rest := hw
    simp [hw]

/-- The first match from a place is the first match of the text ahead. -/
theorem head?_outcomes_self (hplain : r.isPlain = true) (hsteady : r.isSteady = true) (f : Found) :
    (r.outcomes f).head? = (r.lead? f.behind.rest).map fun m => f.past m.1 m.2 := by
  have htail : ∀ x ∈ ([] : List Char).head?, r.avoids x = true := fun _ h => nomatch h
  simpa using head?_outcomes hplain hsteady htail (List.append_nil f.behind.rest).symm

/-- What is matched is a word of the expression, and the beginning of the text. -/
theorem lead?_some (hplain : r.isPlain = true) (hsteady : r.isSteady = true)
    (h : r.lead? text = some (w, rest)) : w ∈ r.words ∧ text = w ++ rest := by
  obtain ⟨g, hg, hlead⟩ := Option.map_eq_some_iff.1 h
  obtain ⟨v, hv, rest', hall, rfl⟩ :=
    (spells_outcomes hplain hsteady _ g).1 (List.mem_of_mem_head? hg)
  have hall : text = v ++ rest' := hall
  simp only [hall, Found.place_past, Found.rest_past, Nat.zero_add, List.take_left] at hlead
  cases hlead
  exact ⟨hv, hall⟩

/-- If two expressions match one behind the other, then this is what both of them match. -/
theorem lead?_cat {a b : Regex} {v rest' : List Char} (hplain : (a.cat b).isPlain = true)
    (hsteady : (a.cat b).isSteady = true) (ha : a.lead? text = some (w, rest))
    (hb : b.lead? rest = some (v, rest')) : (a.cat b).lead? text = some (w ++ v, rest') := by
  simp only [isPlain, isSteady, Bool.and_eq_true] at hplain hsteady
  let start : Found := ⟨[], { rest := text }⟩
  have hfirst := head?_outcomes_self hplain.1 hsteady.1 start
  have hsecond := head?_outcomes_self hplain.2 hsteady.2 (start.past w rest)
  rw [ha] at hfirst
  rw [Found.rest_past, hb] at hsecond
  obtain ⟨others, hothers⟩ := List.head?_eq_some_iff.1 hfirst
  -- the two words together are the beginning of the text
  have htake : text.take (w.length + v.length) = w ++ v := by
    rw [(lead?_some hplain.1 hsteady.1 ha).2, (lead?_some hplain.2 hsteady.2 hb).2,
      ← List.append_assoc, ← List.length_append, List.take_left]
  rw [lead?, outcomes, List.head?_flatMap, hothers, List.findSome?_cons, hsecond]
  simp [start, Found.past_past, htake]

/-- A greedy repetition of a set takes all characters of the set that come next. -/
private theorem head?_unlimited {s : CharSet} {f : Found} (hf : f.behind.rest = w ++ rest)
    (hw : ∀ x ∈ w, s.contains x = true) (hrest : ∀ x ∈ rest.head?, s.contains x = false) :
    (unlimited true (Regex.set s).outcomes f).head? = some (f.past w rest) := by
  rw [unlimited_eq (goesOn_of_consumes rfl)]
  induction w generalizing f with
  | nil =>
    -- the run ends here: the set takes nothing more, so no round is the only choice
    have hnone : (Regex.set s).outcomes f = [] := by
      rw [outcomes, hf]
      cases rest with
      | nil => rfl
      | cons x rest => simp [hrest x rfl]
    rw [hnone]
    exact congrArg some (by rw [← List.nil_append rest, ← hf, Found.past_nil])
  | cons x w ih =>
    have hone : (Regex.set s).outcomes f = [f.past [x] (w ++ rest)] := by
      simp [outcomes, hf, hw x List.mem_cons_self, Found.pass_eq_past]
    rw [hone, List.flatMap_singleton, prefer, if_pos rfl, unlimited_eq (goesOn_of_consumes rfl),
      List.head?_append, ih rfl fun y hy => hw y (List.mem_cons_of_mem x hy), Found.past_past]
    rfl

/-- As many characters of a set as there are. -/
theorem lead?_many {s : CharSet} (hne : w ≠ []) (hw : ∀ x ∈ w, s.contains x = true)
    (hrest : ∀ x ∈ rest.head?, s.contains x = false) :
    (Regex.repeated (.set s) 1 none true).lead? (w ++ rest) = some (w, rest) := by
  obtain ⟨x, w, rfl⟩ := List.exists_cons_of_ne_nil hne
  have hone (f : Found) (hf : f.behind.rest = x :: w ++ rest) :
      inRow (Regex.set s).outcomes 1 f = [f.past [x] (w ++ rest)] := by
    simp [inRow, outcomes, hf, hw x List.mem_cons_self, Found.pass_eq_past]
  rw [lead?, outcomes, hone _ rfl, List.flatMap_singleton,
    head?_unlimited rfl (fun y hy => hw y (List.mem_cons_of_mem x hy)) hrest, Found.past_past]
  simp

/-- A plain expression whose matches have characters. -/
structure Plain (r : Regex) : Prop where
  plain : r.isPlain = true
  steady : r.isSteady = true
  consumes : r.consumes = true

namespace Plain

/-- A plain pattern has no empty word. -/
theorem ne_nil_of_mem_words (hr : r.Plain) (hw : w ∈ r.words) : w ≠ [] := by
  rintro rfl
  have hmem := (spells_outcomes hr.plain hr.steady ⟨[], { rest := [] }⟩ _).2
    ⟨[], hw, [], rfl, rfl⟩
  exact Nat.not_succ_le_self _ (goesOn_of_consumes hr.consumes _ _ hmem)

/-- A plain pattern does not match the empty text. -/
theorem lead?_nil (hr : r.Plain) : r.lead? [] = none := by
  cases h : r.lead? [] with
  | none => rfl
  | some m =>
    obtain ⟨hw, hall⟩ := lead?_some hr.plain hr.steady h
    exact absurd (List.append_eq_nil_iff.1 hall.symm).1 (hr.ne_nil_of_mem_words hw)

/-- A text that begins with a useless character does not change what is matched before it. -/
theorem lead?_append (hr : r.Plain) (htail : ∀ x ∈ tail.head?, r.avoids x = true) :
    r.lead? (text ++ tail) = (r.lead? text).map fun m => (m.1, m.2 ++ tail) := by
  rw [lead?, head?_outcomes hr.plain hr.steady htail rfl, Option.map_map]
  cases hlead : r.lead? text with
  | none => rfl
  | some m => simp [(lead?_some hr.plain hr.steady hlead).2]

end Plain

end Regex

end PathSpace
