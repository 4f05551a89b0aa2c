import PathSpace.Text.Hex
/-! # Sets of characters

A `CharSet` is a set of characters, kept as ranges of their numbers.  The ranges are in
increasing order and do not touch each other, so equal sets are kept alike.

* `union`, `compl`, `inter`, `diff` and `symmDiff` build sets from sets;
* `contains` asks for a character, `hasNumber` for its number;
* `ofTable` reads a set from its written form.

`hasNumber_union` says what a union holds.
-/

namespace PathSpace

/-- A set of characters. -/
structure CharSet where
  /-- The ranges of their numbers, both ends included. -/
  ranges : List (Nat × Nat) := []
  deriving DecidableEq, Repr

namespace CharSet

/-- The greatest number of a character. -/
def maxNumber : Nat := 0x10ffff

/-- The empty set. -/
def empty : CharSet := {}

/-- The numbers from `lo` to `hi`. -/
def range (lo hi : Nat) : CharSet := if lo ≤ hi then ⟨[(lo, hi)]⟩ else empty

/-- All characters. -/
def all : CharSet := range 0 maxNumber

/-- The set of one character. -/
def single (c : Char) : CharSet := range c.toNat c.toNat

/-- Whether the set has no members. -/
def isEmpty (s : CharSet) : Bool := s.ranges.isEmpty

/-- Whether the number of a character lies in the set. -/
def hasNumber (s : CharSet) (n : Nat) : Bool := s.ranges.any fun r => r.1 ≤ n && n ≤ r.2

/-- Whether a character is in the set. -/
def contains (s : CharSet) (c : Char) : Bool := s.hasNumber c.toNat

/-- The one character of a set that has just one. -/
def only? (s : CharSet) : Option Nat :=
  match s.ranges with
  | [(lo, hi)] => if lo = hi then some lo else none
  | _ => none

/-- Whether all members are ASCII. -/
def isAscii (s : CharSet) : Bool := s.ranges.all fun r => r.2 < 128

/-! ## Building sets -/

/-- Puts two lists of ranges into one; ranges that touch become one.  `steps` is the number of
ranges. -/
def mergeRanges : (steps : Nat) → List (Nat × Nat) → List (Nat × Nat) → List (Nat × Nat)
  | 0, _, _ => []
  | _ + 1, [], rs => rs
  | _ + 1, rs, [] => rs
  | steps + 1, (a, b) :: rs, (c, d) :: ss =>
    if b + 1 < c then (a, b) :: mergeRanges steps rs ((c, d) :: ss)
    else if d + 1 < a then (c, d) :: mergeRanges steps ((a, b) :: rs) ss
    else if b ≤ d then mergeRanges steps rs ((min a c, d) :: ss)
    else mergeRanges steps ((min a c, b) :: rs) ss

/-- The members of both sets. -/
def union (a b : CharSet) : CharSet :=
  ⟨mergeRanges (a.ranges.length + b.ranges.length) a.ranges b.ranges⟩

/-- The set of some ranges, in any order. -/
def ofRanges (rs : List (Nat × Nat)) : CharSet :=
  rs.foldr (fun r s => (range r.1 r.2).union s) empty

/-- The members of several sets. -/
def unions (sets : List CharSet) : CharSet := sets.foldl union empty

/-- The gaps between ranges, from a number on. -/
def gaps (from_ : Nat) : List (Nat × Nat) → List (Nat × Nat)
  | [] => if from_ ≤ maxNumber then [(from_, maxNumber)] else []
  | (a, b) :: rest => if from_ < a then (from_, a - 1) :: gaps (b + 1) rest else gaps (b + 1) rest

/-- The characters that are not in the set. -/
def compl (s : CharSet) : CharSet := ⟨gaps 0 s.ranges⟩

/-- The members that two sets share. -/
def inter (a b : CharSet) : CharSet := (a.compl.union b.compl).compl

/-- The members that another set lacks. -/
def diff (a b : CharSet) : CharSet := a.inter b.compl

/-- The members of just one of two sets. -/
def symmDiff (a b : CharSet) : CharSet := (a.diff b).union (b.diff a)

theorem any_mergeRanges (n steps : Nat) (rs ss : List (Nat × Nat))
    (hsteps : rs.length + ss.length ≤ steps)
    (hr : ∀ r ∈ rs, r.1 ≤ r.2) (hs : ∀ r ∈ ss, r.1 ≤ r.2) :
    ((mergeRanges steps rs ss).any fun r => r.1 ≤ n && n ≤ r.2) =
      ((rs.any fun r => r.1 ≤ n && n ≤ r.2) || ss.any fun r => r.1 ≤ n && n ≤ r.2) := by
  induction steps generalizing rs ss with
  | zero =>
    have hr0 : rs = [] := List.eq_nil_of_length_eq_zero (by omega)
    have hs0 : ss = [] := List.eq_nil_of_length_eq_zero (by omega)
    simp [hr0, hs0, mergeRanges]
  | succ steps ih =>
    match rs, ss with
    | [], ss => simp [mergeRanges]
    | r :: rs, [] => simp [mergeRanges]
    | (a, b) :: rs, (c, d) :: ss =>
      have hab : a ≤ b := hr (a, b) (by simp)
      have hcd : c ≤ d := hs (c, d) (by simp)
      have hr' : ∀ r ∈ rs, r.1 ≤ r.2 := fun r h => hr r (by simp [h])
      have hs' : ∀ r ∈ ss, r.1 ≤ r.2 := fun r h => hs r (by simp [h])
      simp only [List.length_cons] at hsteps
      rw [mergeRanges]
      split
      · rw [List.any_cons, ih rs ((c, d) :: ss) (by simp; omega) hr' hs]
        simp only [List.any_cons, Bool.or_assoc]
      split
      · rw [List.any_cons, ih ((a, b) :: rs) ss (by simp; omega) hr hs', List.any_cons]
        grind
      split
      · rw [ih rs ((min a c, d) :: ss) (by simp; omega) hr'
          (by simp only [List.mem_cons]; rintro r (rfl | h); · simp; omega
              · exact hs' r h)]
        simp only [List.any_cons]
        rw [Bool.eq_iff_iff]
        simp only [Bool.or_eq_true, Bool.and_eq_true, decide_eq_true_eq]
        grind
      · rw [ih ((min a c, b) :: rs) ss (by simp; omega)
          (by simp only [List.mem_cons]; rintro r (rfl | h); · simp; omega
              · exact hr' r h) hs']
        simp only [List.any_cons]
        rw [Bool.eq_iff_iff]
        simp only [Bool.or_eq_true, Bool.and_eq_true, decide_eq_true_eq]
        grind

/-- The union of two sets holds the numbers of both. -/
theorem hasNumber_union (a b : CharSet) (n : Nat)
    (ha : ∀ r ∈ a.ranges, r.1 ≤ r.2) (hb : ∀ r ∈ b.ranges, r.1 ≤ r.2) :
    (a.union b).hasNumber n = (a.hasNumber n || b.hasNumber n) :=
  any_mergeRanges n _ _ _ (Nat.le_refl _) ha hb

/-! ## Tables -/

/-- A table as far as it has been read. -/
structure TableReader where
  /-- The number that stands before a mark, and the mark. -/
  first : Option (Nat × Char) := none
  /-- The number that is being read. -/
  number : Option Nat := none
  /-- The ranges so far, the last one first. -/
  ranges : List (Nat × Nat) := []

namespace TableReader

/-- Every second number from `lo` to `hi`, the last one first. -/
def everySecond (lo hi : Nat) : List (Nat × Nat) :=
  ((List.range ((hi - lo) / 2 + 1)).map fun k => (lo + 2 * k, lo + 2 * k)).reverse

/-- Ends a word. -/
def endWord (t : TableReader) : TableReader :=
  match t.first, t.number with
  | some (lo, mark), some hi =>
    { ranges := if mark = ':' then everySecond lo hi ++ t.ranges else (lo, hi) :: t.ranges }
  | none, some n => { ranges := (n, n) :: t.ranges }
  | _, none => { ranges := t.ranges }

/-- Reads a character. -/
def read (t : TableReader) (c : Char) : TableReader :=
  match Text.Hex.digit? c with
  | some d => { t with number := some (t.number.getD 0 * 16 + d) }
  | none =>
    if c = '-' ∨ c = ':' then { t with first := t.number.map (·, c), number := none }
    else t.endWord

end TableReader

/-- The set that a table describes: words with blanks between them, in increasing order.  A
word is the number of a character in hexadecimal digits, or two numbers with a dash for all
characters from one to the other, or with a colon for every second one of them. -/
def ofTable (text : String) : CharSet :=
  ⟨((text.toList.foldl TableReader.read {}).endWord).ranges.reverse⟩

example : ofTable "41-5A AA 100:104" =
    ⟨[(0x41, 0x5a), (0xaa, 0xaa), (0x100, 0x100), (0x102, 0x102), (0x104, 0x104)]⟩ := by
  decide +kernel

example : (ofRanges [(5, 9), (1, 2), (3, 4), (20, 30)]).compl.ranges =
    [(0, 0), (10, 19), (31, maxNumber)] := by
  decide

end CharSet

/-- Characters with the names that their set goes by. -/
structure NamedSet where
  /-- The names in lower case, without marks between their words. -/
  names : List String
  members : CharSet

namespace NamedSet

/-- The set of that name. -/
def find? (sets : List NamedSet) (name : String) : Option CharSet :=
  (sets.find? (·.names.contains name)).map (·.members)

end NamedSet

end PathSpace
