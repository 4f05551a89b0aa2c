import PathSpace.Decimal.Integer
import PathSpace.Proofs.Fault.Computation
/-!
# Reading what was written in decimal

The digits of a number are read from the left, and after them the number stands in the accumulator.
The bounds are kept on the way, since each accumulator is a leading part of the number.  For the
same reason a number that is too large is noticed at some digit, and only such a number.

## Key results

- `readUp_digits`, `readDown_digits`: the digits of a number are read as that number
- `readInt64_intText`: the text of a signed 64-bit integer is read as that integer
- `Spells`: an optional sign and one or more digits
- `readWithin_eq_ok_iff`: digits are read exactly if the number is within the bound
- `readInt64_eq_ok_iff`: a text is read exactly if it spells a signed 64-bit integer
-/

namespace PathSpace.Decimal

/-- The character of a digit is read as the digit. -/
private theorem digit?_digitChar {n : Nat} (h : n < 10) : digit? (digitChar n) = some n := by
  have hall : ∀ n, n < 10 → digit? (digitChar n) = some n := by decide
  exact hall n h

/-- A number below ten has one digit. -/
private theorem digits_of_lt {n : Nat} (h : n < 10) : digits n = [digitChar n] := by
  rw [digits, dif_pos h]

/-- The last digit of a number comes behind those of its tenth part. -/
private theorem digits_of_not_lt {n : Nat} (h : ¬ n < 10) :
    digits n = digits (n / 10) ++ [digitChar (n % 10)] := by
  rw [digits, dif_neg h]

/-- Every number has a first digit. -/
private theorem exists_digits_eq_cons (n : Nat) :
    ∃ d rest, d < 10 ∧ digits n = digitChar d :: rest := by
  induction n using digits.induct with
  | case1 n h => exact ⟨n, [], h, digits_of_lt h⟩
  | case2 n h ih =>
    obtain ⟨d, rest, hd, hrest⟩ := ih
    exact ⟨d, rest ++ [digitChar (n % 10)], hd, by rw [digits_of_not_lt h, hrest, List.cons_append]⟩

/-! ## Digits -/

/-- A digit is appended to the number, if the bound allows it. -/
private theorem readUp_digitChar {acc : Int} {d : Nat} (hd : d < 10) (hle : acc * 10 + d ≤ maxInt64)
    (rest : List Char) : readUp acc (digitChar d :: rest) = readUp (acc * 10 + d) rest := by
  rw [readUp, digit?_digitChar hd]
  exact if_neg (Int.not_lt.2 hle)

/-- A digit is appended to the negative number, if the bound allows it. -/
private theorem readDown_digitChar {acc : Int} {d : Nat} (hd : d < 10)
    (hle : minInt64 ≤ acc * 10 - d)
    (rest : List Char) : readDown acc (digitChar d :: rest) = readDown (acc * 10 - d) rest := by
  rw [readDown, digit?_digitChar hd]
  exact if_neg (Int.not_lt.2 hle)

/-- After its digits a number stands in the accumulator. -/
theorem readUp_digits {n : Nat} (h : (n : Int) ≤ maxInt64) (rest : List Char) :
    readUp 0 (digits n ++ rest) = readUp n rest := by
  induction n using digits.induct generalizing rest with
  | case1 n hn =>
    rw [digits_of_lt hn, List.singleton_append, readUp_digitChar hn (by omega)]
    congr 1
    omega
  | case2 n hn ih =>
    -- for the digits in front, the last one is part of the rest
    have hlast : ((n / 10 : Nat) : Int) * 10 + (n % 10 : Nat) = n := by omega
    rw [digits_of_not_lt hn, List.append_assoc, ih (by omega), List.singleton_append,
      readUp_digitChar (Nat.mod_lt _ (by decide)) (by rwa [hlast]), hlast]

/-- After its digits a number stands in the accumulator, below zero. -/
theorem readDown_digits {n : Nat} (h : minInt64 ≤ -(n : Int)) (rest : List Char) :
    readDown 0 (digits n ++ rest) = readDown (-n) rest := by
  induction n using digits.induct generalizing rest with
  | case1 n hn =>
    rw [digits_of_lt hn, List.singleton_append, readDown_digitChar hn (by omega)]
    congr 1
    omega
  | case2 n hn ih =>
    have hlast : -((n / 10 : Nat) : Int) * 10 - (n % 10 : Nat) = -(n : Int) := by omega
    rw [digits_of_not_lt hn, List.append_assoc, ih (by omega), List.singleton_append,
      readDown_digitChar (Nat.mod_lt _ (by decide)) (by rwa [hlast]), hlast]

/-! ## Signs -/

/-- Without a sign all characters are digits. -/
private theorem readSigned_digits (n : Nat) : readSigned (digits n) = readUp 0 (digits n) := by
  obtain ⟨d, rest, hd, hdigits⟩ := exists_digits_eq_cons n
  have hsign : ∀ d, d < 10 → digitChar d ≠ '+' ∧ digitChar d ≠ '-' := by decide
  obtain ⟨hplus, hminus⟩ := hsign d hd
  rw [hdigits, readSigned.eq_def]
  split <;> simp_all

/-- Digits behind a minus are read downwards. -/
private theorem readSigned_minus_digits (n : Nat) :
    readSigned ('-' :: digits n) = readDown 0 (digits n) := by
  obtain ⟨d, rest, -, hdigits⟩ := exists_digits_eq_cons n
  rw [hdigits, readSigned.eq_def]
  split <;> simp_all

/-- The text of an integer within the bounds is read as that integer. -/
private theorem readSigned_intText {i : Int} (hmin : minInt64 ≤ i) (hmax : i ≤ maxInt64) :
    readSigned (intText i).toList = .ok i := by
  cases i with
  | ofNat n =>
    have hread := readUp_digits hmax []
    rw [List.append_nil] at hread
    rw [intText, natText, String.toList_ofList, readSigned_digits, hread, readUp]
    rfl
  | negSucc n =>
    -- the digits are subtracted one by one, so the least integer does not overflow
    have hread := readDown_digits (n := n + 1) hmin []
    rw [List.append_nil] at hread
    have htext : (intText (.negSucc n)).toList = '-' :: digits (n + 1) := by
      simp [intText, natText]
    rw [htext, readSigned_minus_digits, hread, readDown]
    rfl

/-- The text of a signed 64-bit integer is read as that integer. -/
theorem readInt64_intText (i : Int64) : readInt64 (intText i.toInt) = .ok i := by
  have hmin : minInt64 ≤ i.toInt := i.le_toInt
  have hmax : i.toInt ≤ maxInt64 := Int.le_of_lt_add_one i.toInt_lt
  rw [readInt64, readSigned_intText hmin hmax]
  exact congrArg Except.ok i.ofInt_toInt

/-! ## Texts that spell integers -/

/-- The number that decimal digits make of the number in front of them. -/
def appendValue (n : Nat) (text : List Char) : Nat :=
  text.foldl (fun n c => n * 10 + (c.toNat - '0'.toNat)) n

/-- Decimal digits and nothing else. -/
def AllDigits (text : List Char) : Prop := ∀ c ∈ text, '0' ≤ c ∧ c ≤ '9'

/-- A text is an optional sign and one or more decimal digits, and these stand for an integer. -/
inductive Spells : List Char → Int → Prop
  | unsigned {text} (hne : text ≠ []) (h : AllDigits text) : Spells text (appendValue 0 text)
  | plus {text} (hne : text ≠ []) (h : AllDigits text) : Spells ('+' :: text) (appendValue 0 text)
  | minus {text} (hne : text ≠ []) (h : AllDigits text) :
    Spells ('-' :: text) (-(appendValue 0 text : Int))

variable {text : List Char} {i : Int}

/-- All are digits if the first and the others are. -/
private theorem allDigits_cons_iff {c : Char} :
    AllDigits (c :: text) ↔ ('0' ≤ c ∧ c ≤ '9') ∧ AllDigits text := List.forall_mem_cons

/-- What a text behind a plus spells. -/
private theorem spells_plus_iff :
    Spells ('+' :: text) i ↔ text ≠ [] ∧ AllDigits text ∧ i = appendValue 0 text := by
  constructor
  · rintro (⟨-, h⟩ | ⟨hne, h⟩)
    · exact absurd (allDigits_cons_iff.1 h).1 (by decide)
    · exact ⟨hne, h, rfl⟩
  · rintro ⟨hne, h, rfl⟩
    exact .plus hne h

/-- What a text behind a minus spells. -/
private theorem spells_minus_iff :
    Spells ('-' :: text) i ↔ text ≠ [] ∧ AllDigits text ∧ i = -(appendValue 0 text : Int) := by
  constructor
  · rintro (⟨-, h⟩ | - | ⟨hne, h⟩)
    · exact absurd (allDigits_cons_iff.1 h).1 (by decide)
    · exact ⟨hne, h, rfl⟩
  · rintro ⟨hne, h, rfl⟩
    exact .minus hne h

/-- What a text without a sign spells. -/
private theorem spells_unsigned_iff (hplus : ∀ rest, text ≠ '+' :: rest)
    (hminus : ∀ rest, text ≠ '-' :: rest) :
    Spells text i ↔ text ≠ [] ∧ AllDigits text ∧ i = appendValue 0 text := by
  constructor
  · rintro (⟨hne, h⟩ | - | -)
    · exact ⟨hne, h, rfl⟩
    · exact absurd rfl (hplus _)
    · exact absurd rfl (hminus _)
  · rintro ⟨hne, h, rfl⟩
    exact .unsigned hne h

/-! ## Reading within a bound -/

/-- Appends digits to a number, staying at or below a bound; `fault` says that it was passed. -/
def readWithin (bound : Nat) (fault : IntFault) (n : Nat) : List Char → Except IntFault Nat
  | [] => .ok n
  | c :: rest =>
    match digit? c with
    | none => .error .invalidDigit
    | some d =>
      if bound < n * 10 + d then .error fault else readWithin bound fault (n * 10 + d) rest

/-- To read upwards is to read a number within the largest integer. -/
private theorem readUp_eq (n : Nat) (text : List Char) :
    readUp n text =
      (readWithin maxInt64.toNat .tooLarge n text).map fun m : Nat => (m : Int) := by
  induction text generalizing n with
  | nil => rfl
  | cons c rest ih =>
    rw [readUp, readWithin]
    cases digit? c with
    | none => rfl
    | some d =>
      have hbound : maxInt64 < (n : Int) * 10 + d ↔ maxInt64.toNat < n * 10 + d := by
        rw [maxInt64]
        omega
      simp only [hbound]
      split
      · rfl
      · exact ih (n * 10 + d)

/-- To read downwards is to read a number within the amount of the smallest integer. -/
private theorem readDown_eq (n : Nat) (text : List Char) :
    readDown (-n) text =
      (readWithin (-minInt64).toNat .tooSmall n text).map fun m : Nat => -(m : Int) := by
  induction text generalizing n with
  | nil => rfl
  | cons c rest ih =>
    rw [readDown, readWithin]
    cases digit? c with
    | none => rfl
    | some d =>
      -- downwards the amount grows by the digit as it does upwards
      have hnext : -(n : Int) * 10 - d = -((n * 10 + d : Nat) : Int) := by omega
      have hbound : -((n * 10 + d : Nat) : Int) < minInt64 ↔ (-minInt64).toNat < n * 10 + d := by
        rw [minInt64]
        omega
      simp only [hnext, hbound]
      split
      · rfl
      · exact ih (n * 10 + d)

/-- To append digits makes no number smaller. -/
private theorem le_appendValue (n : Nat) (text : List Char) : n ≤ appendValue n text := by
  induction text generalizing n with
  | nil => exact Nat.le_refl n
  | cons c rest ih =>
    have hnext : n ≤ n * 10 + (c.toNat - '0'.toNat) := by omega
    exact Nat.le_trans hnext (ih _)

/-- Digits are read exactly if the number that they make is within the bound. -/
theorem readWithin_eq_ok_iff {bound n m : Nat} {fault : IntFault} (hn : n ≤ bound) :
    readWithin bound fault n text = .ok m ↔
      AllDigits text ∧ m = appendValue n text ∧ m ≤ bound := by
  induction text generalizing n with
  | nil =>
    rw [readWithin, Except.ok.injEq]
    refine ⟨?_, fun h => h.2.1.symm⟩
    rintro rfl
    exact ⟨fun c hc => absurd hc List.not_mem_nil, rfl, hn⟩
  | cons c rest ih =>
    have hvalue : appendValue n (c :: rest) = appendValue (n * 10 + (c.toNat - 48)) rest := rfl
    rw [readWithin, allDigits_cons_iff, hvalue]
    by_cases hc : '0' ≤ c ∧ c ≤ '9'
    · have hdigit : digit? c = some (c.toNat - 48) := if_pos hc
      simp only [hdigit, hc, and_self, true_and]
      split
      · next hlarge =>
        -- the whole number is not smaller than this part of it
        have hle := le_appendValue (n * 10 + (c.toNat - 48)) rest
        refine iff_of_false (fun h => by cases h) ?_
        rintro ⟨-, rfl, hm⟩
        exact absurd (Nat.le_trans hle hm) (Nat.not_le.2 hlarge)
      · next hsmall => exact ih (Nat.not_lt.1 hsmall)
    · have hdigit : digit? c = none := if_neg hc
      rw [hdigit]
      exact iff_of_false (fun h => by cases h) fun h => hc h.1.1

/-- What is read upwards are digits, with a value up to the bound. -/
private theorem readUp_eq_ok_iff :
    readUp 0 text = .ok i ↔ AllDigits text ∧ i = appendValue 0 text ∧ i ≤ maxInt64 := by
  rw [show (0 : Int) = (0 : Nat) from rfl, readUp_eq]
  -- the bound is one of the integers, that of the numbers is its amount
  constructor
  · intro h
    obtain ⟨m, hm, rfl⟩ := Computation.exists_of_map_eq_ok h
    obtain ⟨hdigits, rfl, hle⟩ := (readWithin_eq_ok_iff (Nat.zero_le _)).1 hm
    refine ⟨hdigits, rfl, ?_⟩
    rw [maxInt64] at hle ⊢
    omega
  · rintro ⟨hdigits, rfl, hle⟩
    have hwithin : appendValue 0 text ≤ maxInt64.toNat := by
      rw [maxInt64] at hle ⊢
      omega
    rw [(readWithin_eq_ok_iff (Nat.zero_le _)).2 ⟨hdigits, rfl, hwithin⟩]
    rfl

/-- What is read downwards are digits, with a value down to the bound. -/
private theorem readDown_eq_ok_iff :
    readDown 0 text = .ok i ↔
      AllDigits text ∧ i = -(appendValue 0 text : Int) ∧ minInt64 ≤ i := by
  rw [show (0 : Int) = -(0 : Nat) from rfl, readDown_eq]
  constructor
  · intro h
    obtain ⟨m, hm, rfl⟩ := Computation.exists_of_map_eq_ok h
    obtain ⟨hdigits, rfl, hle⟩ := (readWithin_eq_ok_iff (Nat.zero_le _)).1 hm
    refine ⟨hdigits, rfl, ?_⟩
    rw [minInt64] at hle ⊢
    omega
  · rintro ⟨hdigits, rfl, hle⟩
    have hwithin : appendValue 0 text ≤ (-minInt64).toNat := by
      rw [minInt64] at hle ⊢
      omega
    rw [(readWithin_eq_ok_iff (Nat.zero_le _)).2 ⟨hdigits, rfl, hwithin⟩]
    rfl

/-! ## What is read -/

/-- A text is read exactly if it spells an integer within the bounds. -/
private theorem readSigned_eq_ok_iff :
    readSigned text = .ok i ↔ Spells text i ∧ minInt64 ≤ i ∧ i ≤ maxInt64 := by
  -- a number without a minus is not below the lower bound, and one with it not above the upper
  have hup (n : Nat) : minInt64 ≤ (n : Int) := by
    rw [minInt64]
    omega
  have hdown (n : Nat) : -(n : Int) ≤ maxInt64 := by
    rw [maxInt64]
    omega
  rw [readSigned.eq_def]
  split
  · rw [spells_unsigned_iff (by simp) (by simp)]
    simp
  · rw [spells_plus_iff]
    simp
  · rw [spells_minus_iff]
    simp
  · next rest hne =>
    rw [spells_plus_iff, readUp_eq_ok_iff]
    constructor
    · rintro ⟨h, rfl, hle⟩
      exact ⟨⟨hne, h, rfl⟩, hup _, hle⟩
    · rintro ⟨⟨-, h, rfl⟩, -, hle⟩
      exact ⟨h, rfl, hle⟩
  · next rest hne =>
    rw [spells_minus_iff, readDown_eq_ok_iff]
    constructor
    · rintro ⟨h, rfl, hle⟩
      exact ⟨⟨hne, h, rfl⟩, hle, hdown _⟩
    · rintro ⟨⟨-, h, rfl⟩, hle, -⟩
      exact ⟨h, rfl, hle⟩
  · next hne _ _ hplus hminus =>
    rw [spells_unsigned_iff hplus hminus, readUp_eq_ok_iff]
    constructor
    · rintro ⟨h, rfl, hle⟩
      exact ⟨⟨hne, h, rfl⟩, hup _, hle⟩
    · rintro ⟨⟨-, h, rfl⟩, -, hle⟩
      exact ⟨h, rfl, hle⟩

/-- A text is read exactly if it spells a signed 64-bit integer. -/
theorem readInt64_eq_ok_iff {s : String} {i : Int64} :
    readInt64 s = .ok i ↔ Spells s.toList i.toInt := by
  constructor
  · intro h
    obtain ⟨j, hj, rfl⟩ := Computation.exists_of_map_eq_ok h
    obtain ⟨hspells, hmin, hmax⟩ := readSigned_eq_ok_iff.1 hj
    rwa [Int64.toInt_ofInt_of_le hmin (Int.lt_add_one_of_le hmax)]
  · intro h
    have hmin : minInt64 ≤ i.toInt := i.le_toInt
    have hmax : i.toInt ≤ maxInt64 := Int.le_of_lt_add_one i.toInt_lt
    rw [readInt64, readSigned_eq_ok_iff.2 ⟨h, hmin, hmax⟩]
    exact congrArg Except.ok i.ofInt_toInt

end PathSpace.Decimal
