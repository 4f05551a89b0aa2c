import PathSpace.Pattern.Basic
import PathSpace.Text.Utf8
/-! # How much room an expression takes

An expression that is repeated often, and repeated again, may become too large to be searched
for.  Its weight is the number of bytes that a table for the search takes, which steps from
byte to byte through the UTF-8 encoding of a text; there is one table for the search onward and
one for the search backward.  `Regex.isBearable` says whether both stay below `maxWeight`.
-/

namespace PathSpace

/-- The greatest weight of an expression. -/
def maxWeight : Nat := 10485760

/-- Bytes from a first to a last one. -/
abbrev ByteRange := Nat × Nat

namespace CharSet

/-- The encodings of numbers from `lo` to `hi` by `k` bytes behind a first one, which tells how
many bytes there are; each of those behind it has six bits of the number. -/
def encodings (first : Nat) : (k : Nat) → (lo hi : Nat) → List (List ByteRange)
  | 0, lo, hi => [[(first + lo, first + hi)]]
  | k + 1, lo, hi =>
    let one := 64 ^ (k + 1)
    let a := lo / one
    let b := hi / one
    let under := fun (n : Nat) (tails : List (List ByteRange)) =>
      tails.map ((first + n, first + n) :: ·)
    if a = b then under a (encodings 0x80 k (lo % one) (hi % one))
    else
      let head := if lo % one = 0 then [] else under a (encodings 0x80 k (lo % one) (one - 1))
      let tail := if hi % one = one - 1 then [] else under b (encodings 0x80 k 0 (hi % one))
      let least := if head.isEmpty then a else a + 1
      let above := if tail.isEmpty then b + 1 else b
      let full := List.replicate (k + 1) (0x80, 0xbf)
      head ++ (if least < above then [(first + least, first + above - 1) :: full] else []) ++ tail

/-- The encodings of all members, in their order. -/
def utf8 (s : CharSet) : List (List ByteRange) :=
  let lengths : List (Nat × Nat × Nat × Nat) :=
    [(0, 0, 0, 0x7f), (0xc0, 1, 0x80, 0x7ff), (0xe0, 2, 0x800, 0xd7ff), (0xe0, 2, 0xe000, 0xffff),
      (0xf0, 3, 0x10000, maxNumber)]
  s.ranges.flatMap fun (lo, hi) => lengths.flatMap fun (first, k, least, most) =>
    if max lo least ≤ min hi most then encodings first k (max lo least) (min hi most) else []

example : utf8 (range 0x7e 0x801) =
    [[(0x7e, 0x7f)], [(0xc2, 0xdf), (0x80, 0xbf)], [(0xe0, 0xe0), (0xa0, 0xa0), (0x80, 0x81)]] := by
  decide +kernel

/-- The first bytes of some encodings, each with what may stand behind them. -/
def branches : List (List ByteRange) → List (ByteRange × List (List ByteRange))
  | [] => []
  | [] :: rest => branches rest
  | (r :: tail) :: rest =>
    match branches rest with
    | [] => [(r, [tail])]
    | (r', tails) :: more =>
      if r = r' then (r, tail :: tails) :: more else (r, [tail]) :: (r', tails) :: more

/-- What may stand behind each number of bytes below `depth`, as far as a byte follows. -/
def stages : (depth : Nat) → List (List ByteRange) → List (List (List ByteRange))
  | 0, _ => []
  | depth + 1, seqs =>
    let next := branches seqs
    if next.isEmpty then [] else seqs :: next.flatMap fun (_, tails) => stages depth tails

/-- The weight of one character of a set.  Onward, encodings share what they have in common at
their ends, and backward what they have in common at their starts. -/
def weight (onward : Bool) (s : CharSet) : Nat :=
  let seqs := s.utf8
  match s.only? with
  | some _ => 32 * seqs.flatten.length
  | none =>
    if s.isEmpty then 32
    else if s.isAscii then 64 + 8 * s.ranges.length
    else if onward then
      let tables := (stages 4 seqs).eraseDups
      32 + 32 * tables.length + 8 * (tables.flatMap branches).length
    else
      let starts := seqs.flatMap fun seq => (List.range seq.length).map fun n => seq.take (n + 1)
      64 + 4 * seqs.length + 32 * starts.eraseDups.length

end CharSet

namespace Regex

/-- The weight of a repetition of something that weighs `one`.  If that may be empty, a
repetition that may be left out takes more. -/
def repeatedWeight (mayBeEmpty : Bool) (min : Nat) (max : Option Nat) (one : Nat) : Nat :=
  match max with
  | none => if min = 0 ∧ mayBeEmpty then 112 + one else 40 + Nat.max min 1 * one
  | some max =>
    if min = 0 ∧ max = 1 then 72 + one
    else if min = max then min * one
    else (if min = 0 then 32 else min * one) + 32 + (max - min) * (40 + one)

/-- The weight of an expression that is an alternative of a choice, or stands elsewhere.  A
choice between choices is one, and has a share for each alternative. -/
def weightIn (onward inChoice : Bool) : Regex → Nat
  | .alt a b =>
    b.weightIn onward true + a.weightIn onward true + if inChoice then 0 else 64
  | .empty | .look _ => share + 32
  | .set s => share + s.weight onward
  | .cat a b => share + (b.weightIn onward false + a.weightIn onward false)
  | .group _ a => share + (a.weightIn onward false + if onward then 64 else 0)
  | .repeated a min max _ =>
    share + repeatedWeight (!a.consumes) min max (a.weightIn onward false)
where
  /-- What an alternative adds to a choice. -/
  share : Nat := if inChoice then 4 else 0

/-- The weight of an expression. -/
def weight (onward : Bool) (r : Regex) : Nat := r.weightIn onward false

/-- Whether the expression can be searched for. -/
def isBearable (r : Regex) : Bool :=
  r.weight true + 208 ≤ maxWeight && r.weight false + 144 ≤ maxWeight

end Regex

end PathSpace
