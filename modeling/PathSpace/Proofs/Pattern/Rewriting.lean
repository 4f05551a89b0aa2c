import PathSpace.Pattern.Replace
import PathSpace.Proofs.Pattern.Plain
import PathSpace.Proofs.Pattern.Search
/-!
# Rewriting

Replacing all matches of a plain expression rewrites a text from left to right: where the expression
matches, the match gives way to what the replacement makes of it, and other characters stay.

## Key results

- `Regex.rewrite`: the text without its matches
- `Regex.Plain.rewrite_append_cons`: a useless character keeps what is before it from what is behind
- `Matcher.replaceAll_eq`: replacing all matches is rewriting
-/

namespace PathSpace

namespace Regex

variable {r : Regex} {fill : List Char → List Char} {text w rest : List Char} {x : Char}

/-- Puts something in the place of all matches, from left to right. -/
def rewrite (r : Regex) (fill : List Char → List Char) : List Char → List Char
  | [] => []
  | x :: rest =>
    match r.lead? (x :: rest) with
    | some (w, _) => fill w ++ rewrite r fill (rest.drop (w.length - 1))
    | none => x :: rewrite r fill rest
termination_by text => text.length

/-- In an empty text there is nothing to rewrite. -/
@[simp] theorem rewrite_nil : r.rewrite fill [] = [] := by rw [rewrite]

/-- Where there is no match, a character is copied. -/
theorem rewrite_of_none (h : r.lead? (x :: rest) = none) :
    r.rewrite fill (x :: rest) = x :: r.rewrite fill rest := by
  rw [rewrite, h]

namespace Plain

/-- Where there is a match, it is replaced, and the rest goes on behind it. -/
theorem rewrite_of_some (hr : r.Plain) (h : r.lead? text = some (w, rest)) :
    r.rewrite fill text = fill w ++ r.rewrite fill rest := by
  obtain ⟨hw, rfl⟩ := lead?_some hr.plain hr.steady h
  obtain ⟨x, w, rfl⟩ := List.exists_cons_of_ne_nil (hr.ne_nil_of_mem_words hw)
  rw [List.cons_append] at h ⊢
  rw [rewrite, h]
  simp

/-- What holds of a text if it holds behind its first match, or behind its first character, holds of
all texts. -/
private theorem rewrite_induction (hr : r.Plain) {motive : List Char → Prop} (nil : motive [])
    (found : ∀ w rest, r.lead? (w ++ rest) = some (w, rest) → motive rest → motive (w ++ rest))
    (other : ∀ x rest, r.lead? (x :: rest) = none → motive rest → motive (x :: rest))
    (text : List Char) : motive text := by
  induction hn : text.length using Nat.strongRecOn generalizing text with
  | _ n ih =>
    cases text with
    | nil => exact nil
    | cons x rest =>
      cases h : r.lead? (x :: rest) with
      | none => exact other x rest h (ih rest.length (by simp [← hn]) rest rfl)
      | some m =>
        obtain ⟨w, rest'⟩ := m
        obtain ⟨hw, hall⟩ := lead?_some hr.plain hr.steady h
        -- a match is never empty, so the rest is shorter
        have hpos := List.length_pos_iff.2 (hr.ne_nil_of_mem_words hw)
        have hlength := congrArg List.length hall
        rw [List.length_append] at hlength
        rw [hall]
        exact found w rest' (hall ▸ h) (ih rest'.length (by omega) rest' rfl)

/-- A text is rewritten in two parts if no match goes from one into the other, or would do
otherwise if it did. -/
theorem rewrite_append (hr : r.Plain) {tail : List Char} (h : ∀ part, part <:+ text → part ≠ [] →
      r.lead? (part ++ tail) = (r.lead? part).map fun m => (m.1, m.2 ++ tail)) :
    r.rewrite fill (text ++ tail) = r.rewrite fill text ++ r.rewrite fill tail := by
  induction text using hr.rewrite_induction with
  | nil => rw [rewrite_nil, List.nil_append, List.nil_append]
  | found w rest hlead ih =>
    have hw := (lead?_some hr.plain hr.steady hlead).1
    -- the match ends before the second text begins
    have hboth := h (w ++ rest) List.suffix_rfl (by simp [hr.ne_nil_of_mem_words hw])
    rw [hlead] at hboth
    rw [hr.rewrite_of_some hboth, hr.rewrite_of_some hlead, List.append_assoc,
      ih fun part hpart => h part (hpart.trans (List.suffix_append ..))]
  | other x rest hlead ih =>
    have hboth := h (x :: rest) List.suffix_rfl (by simp)
    rw [hlead] at hboth
    rw [List.cons_append] at hboth ⊢
    rw [rewrite_of_none hboth, rewrite_of_none hlead, List.cons_append,
      ih fun part hpart => h part (hpart.trans (List.suffix_cons ..))]

/-- A useless character keeps what is before it from what is behind. -/
theorem rewrite_append_cons (hr : r.Plain) (hx : r.avoids x = true) (text rest : List Char) :
    r.rewrite fill (text ++ x :: rest) = r.rewrite fill text ++ x :: r.rewrite fill rest := by
  have htail : ∀ y ∈ (x :: rest).head?, r.avoids y = true := by simpa using hx
  have hnone : r.lead? (x :: rest) = none := by
    rw [← List.nil_append (x :: rest), hr.lead?_append htail, hr.lead?_nil, Option.map_none]
  rw [hr.rewrite_append fun part _ _ => hr.lead?_append htail, rewrite_of_none hnone]

/-- What is not empty does not become empty. -/
theorem rewrite_ne_nil (hr : r.Plain) (hfill : ∀ w, fill w ≠ []) (htext : text ≠ []) :
    r.rewrite fill text ≠ [] := by
  induction text using hr.rewrite_induction with
  | nil => exact absurd rfl htext
  | found w rest hlead _ => simp [hr.rewrite_of_some hlead, hfill]
  | other x rest hlead _ => simp [rewrite_of_none hlead]

/-- Every character comes from the text or from what replaces a word. -/
private theorem mem_rewrite (hr : r.Plain) (hx : x ∈ r.rewrite fill text) :
    x ∈ text ∨ ∃ w ∈ r.words, x ∈ fill w := by
  -- the induction follows the rewriting: a match is replaced, or a character copied
  induction text using hr.rewrite_induction with
  | nil => simp at hx
  | found w rest hlead ih =>
    rw [hr.rewrite_of_some hlead, List.mem_append] at hx
    rcases hx with hx | hx
    · exact .inr ⟨w, (lead?_some hr.plain hr.steady hlead).1, hx⟩
    · exact (ih hx).imp_left (List.mem_append_right w)
  | other y rest hlead ih =>
    rw [rewrite_of_none hlead, List.mem_cons] at hx
    rcases hx with rfl | hx
    · exact .inl List.mem_cons_self
    · exact (ih hx).imp_left (List.mem_cons_of_mem y)

/-- If no useful character is without a property, then rewriting neither gains the property nor
loses it, as long as nothing else comes in. -/
theorem forall_mem_rewrite {P : Char → Prop} (hr : r.Plain)
    (havoids : ∀ x, ¬P x → r.avoids x = true) (hfill : ∀ w, ∀ x ∈ fill w, P x) :
    (∀ x ∈ r.rewrite fill text, P x) ↔ ∀ x ∈ text, P x := by
  constructor
  · intro h x hx
    by_contra hnot
    -- a character that no word has stays where it is
    obtain ⟨before, behind, rfl⟩ := List.append_of_mem hx
    refine hnot (h x ?_)
    rw [hr.rewrite_append_cons (havoids x hnot)]
    exact List.mem_append_right _ List.mem_cons_self
  · intro h x hx
    rcases hr.mem_rewrite hx with hx | ⟨w, -, hx⟩
    · exact h x hx
    · exact hfill w x hx

/-- Nothing is matched in a text without a character that all words have. -/
theorem lead?_of_not_mem (hr : r.Plain) (hwords : ∀ w ∈ r.words, x ∈ w) (hx : x ∉ text) :
    r.lead? text = none := by
  rw [Option.eq_none_iff_forall_not_mem]
  intro m hm
  obtain ⟨hw, htext⟩ := lead?_some hr.plain hr.steady hm
  exact hx (htext ▸ List.mem_append_left m.2 (hwords m.1 hw))

/-- Without a character that all words have there is no match. -/
theorem rewrite_of_not_mem (hr : r.Plain) (hwords : ∀ w ∈ r.words, x ∈ w) (hx : x ∉ text) :
    r.rewrite fill text = text := by
  induction text with
  | nil => exact rewrite_nil
  | cons y rest ih =>
    rw [rewrite_of_none (hr.lead?_of_not_mem hwords hx),
      ih fun hmem => hx (List.mem_cons_of_mem y hmem)]

/-- A text does not become shorter if no word does. -/
theorem length_le_rewrite (hr : r.Plain) (hfill : ∀ w ∈ r.words, w.length ≤ (fill w).length)
    (text : List Char) : text.length ≤ (r.rewrite fill text).length := by
  induction text using hr.rewrite_induction with
  | nil => exact Nat.zero_le _
  | found w rest hlead ih =>
    rw [hr.rewrite_of_some hlead, List.length_append, List.length_append]
    exact Nat.add_le_add (hfill w (lead?_some hr.plain hr.steady hlead).1) ih
  | other x rest hlead ih =>
    rw [rewrite_of_none hlead]
    exact Nat.succ_le_succ ih

end Plain

end Regex

/-! ## Finding the first match -/

namespace Program

variable {r : Regex} {c : Cursor} {w rest : List Char} {x : Char}

/-- The match of `w` at a place, behind which there is `rest`. -/
def matched (c : Cursor) (w rest : List Char) : Found :=
  ⟨[(1, c.place + w.length), (0, c.place)], c.past w rest⟩

/-- The first outcome of the outermost group is the first match. -/
private theorem head?_outcomes_group (hr : r.Plain) (c : Cursor) :
    ((Regex.group 0 r).outcomes ⟨[], c⟩).head? =
      (r.lead? c.rest).map fun m => matched c m.1 m.2 := by
  rw [Regex.outcomes, List.head?_map, Regex.head?_outcomes_self hr.plain hr.steady, Option.map_map]
  rfl

/-- Where the pattern matches, the search ends. -/
theorem search_of_some (hr : r.Plain) (h : r.lead? c.rest = some (w, rest)) :
    (ofRegex r).search c = some (matched c w rest) := by
  obtain ⟨place, before, text⟩ := c
  rw [search_ofRegex hr.steady, Cursor.places]
  cases text with
  | nil => rw [hr.lead?_nil] at h; cases h
  | cons x text =>
    rw [Cursor.placesFrom, List.findSome?_cons, head?_outcomes_group hr, h]
    rfl

/-- Where the pattern does not match, the search goes on behind the next character. -/
private theorem search_of_none (hr : r.Plain) {place : Nat} {before : Option Char}
    (h : r.lead? (x :: rest) = none) : (ofRegex r).search ⟨place, before, x :: rest⟩ =
      (ofRegex r).search ⟨place + 1, some x, rest⟩ := by
  rw [search_ofRegex hr.steady, search_ofRegex hr.steady, Cursor.places, Cursor.placesFrom,
    List.findSome?_cons, head?_outcomes_group hr, h]
  rfl

/-- At the end of a text nothing is found. -/
private theorem search_nil (hr : r.Plain) {place : Nat} {before : Option Char} :
    (ofRegex r).search ⟨place, before, []⟩ = none := by
  rw [search_ofRegex hr.steady, Cursor.places, Cursor.placesFrom, List.findSome?_singleton,
    head?_outcomes_group hr, hr.lead?_nil]
  rfl

/-- Either nothing is found, and nothing is rewritten, or what is found is the first that is
rewritten. -/
theorem search_cases (hr : r.Plain) (c : Cursor) :
    ((ofRegex r).search c = none ∧ ∀ fill, r.rewrite fill c.rest = c.rest) ∨
      ∃ before w rest, r.lead? (w ++ rest) = some (w, rest) ∧ c.rest = before ++ (w ++ rest) ∧
        (ofRegex r).search c = some (matched (c.past before (w ++ rest)) w rest) ∧
        ∀ fill, r.rewrite fill c.rest = before ++ (fill w ++ r.rewrite fill rest) := by
  obtain ⟨place, before, text⟩ := c
  induction text generalizing place before with
  | nil => exact .inl ⟨search_nil hr, fun fill => Regex.rewrite_nil⟩
  | cons x text ih =>
    cases h : r.lead? (x :: text) with
    | some m =>
      obtain ⟨w, rest⟩ := m
      have hall := (Regex.lead?_some hr.plain hr.steady h).2
      refine .inr ⟨[], w, rest, hall ▸ h, hall, ?_, fun fill => ?_⟩
      · rw [search_of_some hr h]
        rfl
      · rw [hr.rewrite_of_some h, List.nil_append]
    | none =>
      -- the place is passed over, and what is found behind it has one character more before it
      rw [search_of_none hr h]
      rcases ih (place + 1) (some x) with
        ⟨hsearch, hrewrite⟩ | ⟨gap, w, rest, hw, hall, hsearch, hrewrite⟩
      · exact .inl ⟨hsearch, fun fill => by rw [Regex.rewrite_of_none h, hrewrite fill]⟩
      · refine .inr ⟨x :: gap, w, rest, hw, congrArg (x :: ·) hall, ?_, fun fill => ?_⟩
        · rw [hsearch]
          exact congrArg (fun c => some (matched c w rest))
            (Cursor.past_past ⟨place, before, x :: text⟩ [x] gap text (w ++ rest))
        · rw [Regex.rewrite_of_none h, hrewrite fill, List.cons_append]

end Program

/-! ## Replacing all matches -/

/-- What a part of a replacement makes of a match without groups. -/
def TemplatePart.fill (w : List Char) : TemplatePart → List Char
  | .char x => [x]
  | .ref name => if Matcher.groupNumber? name = some 0 then w else []

namespace TemplatePart

/-- What a replacement makes of a match without groups. -/
def filled (replacement : String) (w : List Char) : List Char :=
  (parse replacement.toList).flatMap (fill w)

/-- A replacement without a dollar sign is copied. -/
private theorem read_of_not_mem {text : List Char} (h : '$' ∉ text) {steps : Nat}
    (hsteps : text.length ≤ steps) : read steps text = text.map .char := by
  induction text generalizing steps with
  | nil => cases steps <;> rfl
  | cons x text ih =>
    cases steps with
    | zero => cases hsteps
    | succ steps =>
      have hx : x ≠ '$' := by
        rintro rfl
        exact h List.mem_cons_self
      rw [read, if_neg hx, List.map_cons,
        ih (fun hmem => h (List.mem_cons_of_mem x hmem)) (Nat.le_of_succ_le_succ hsteps)]

/-- A replacement without dollar signs stands for itself. -/
theorem filled_of_not_mem {replacement : String} (h : '$' ∉ replacement.toList) (w : List Char) :
    filled replacement w = replacement.toList := by
  rw [filled, parse, read_of_not_mem h (Nat.le_refl _), List.flatMap_map]
  exact List.flatMap_singleton' _

end TemplatePart

namespace Matcher

variable {r : Regex} {c : Cursor} {w rest : List Char}

/-- A match knows of one group, which is all of it. -/
private theorem expand_matched {before : List Char} (hrest : c.rest = before ++ (w ++ rest)) :
    (Matcher.mk (.ofRegex r) []).expand c (Program.matched (c.past before (w ++ rest)) w rest) =
      TemplatePart.fill w := by
  funext part
  cases part with
  | char x => rfl
  | ref name =>
    rw [expand, TemplatePart.fill, group?]
    cases hi : groupNumber? name with
    | none => rfl
    | some i =>
      -- group zero is the match itself, the others do not take part
      cases i with
      | zero => simp [Found.group?, Found.place?, Program.matched, Cursor.past, hrest]
      | succ i => simp [Found.group?, Found.place?, Program.matched]

/-- To replace all matches is to rewrite the text. -/
private theorem replaceFrom_eq (hr : r.Plain) (template : List TemplatePart) {steps : Nat}
    (fresh : Bool)
    (hsteps : c.rest.length < steps) :
    (Matcher.mk (.ofRegex r) []).replaceFrom template steps fresh c =
      r.rewrite (fun w => template.flatMap (TemplatePart.fill w)) c.rest := by
  induction steps generalizing fresh c with
  | zero => cases hsteps
  | succ steps ih =>
    rw [replaceFrom]
    rcases Program.search_cases hr c with
      ⟨hsearch, hrewrite⟩ | ⟨before, w, rest, hlead, hrest, hsearch, hrewrite⟩
    · simp only [hsearch]
      exact (hrewrite _).symm
    · -- a match has a character, so the next search begins behind this one
      have hpos := List.length_pos_iff.2
        (hr.ne_nil_of_mem_words (Regex.lead?_some hr.plain hr.steady hlead).1)
      have hlength := congrArg List.length hrest
      rw [List.length_append, List.length_append] at hlength
      have hmoves : (!fresh && c.place + before.length + w.length == c.place) = false := by
        rw [Bool.and_eq_false_iff, beq_eq_false_iff_ne]
        exact .inr (by omega)
      have hbefore : c.rest.take (c.place + before.length - c.place) = before := by
        rw [hrest, Nat.add_sub_cancel_left, List.take_left]
      have hstart : (Program.matched (c.past before (w ++ rest)) w rest).start =
          c.place + before.length := rfl
      have hbehind : (Program.matched (c.past before (w ++ rest)) w rest).behind.place =
          c.place + before.length + w.length := rfl
      simp only [hsearch, hstart, hbehind, hmoves, hbefore, Bool.false_eq_true, if_false]
      rw [expand_matched hrest, hrewrite, List.append_assoc,
        ih false (show rest.length < steps by omega)]
      rfl

/-- Replacing all matches of a plain expression is rewriting. -/
theorem replaceAll_eq (hr : r.Plain) (replacement text : String) :
    (Matcher.mk (.ofRegex r) []).replaceAll replacement text =
      String.ofList (r.rewrite (TemplatePart.filled replacement) text.toList) := by
  rw [replaceAll, replaceFrom_eq hr _ _ (by dsimp only; omega)]
  rfl

end Matcher

end PathSpace
