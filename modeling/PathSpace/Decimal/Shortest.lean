import PathSpace.Decimal.Binary64
/-! # The fewest digits that read back

A positive number stands for an interval: all reals that round to it.  Of the
decimal grids `10 ^ k`, the coarsest one with a point in the interval is taken,
and on it the point nearest to the number.  `shortest` gives that point; the
two writers place its digits.
-/

namespace PathSpace.Decimal

/-- A number `digits · 10 ^ exponent`. -/
structure Scientific where
  digits : Nat
  exponent : Int
  deriving DecidableEq, Repr

/-- The interval of reals that a significand and an exponent stand for, in quarters of the
spacing `2 ^ q`: below, the number itself, and above.  Under a power of two the spacing halves. -/
structure Interval where
  low : Nat
  middle : Nat
  high : Nat
  /-- The exponent of the quarter spacing. -/
  exponent : Int
  /-- Whether the two ends round to the number too. -/
  closed : Bool

/-- The interval of `m · 2 ^ q`. -/
def intervalOf (m : Nat) (q : Int) : Interval where
  low := 4 * m - (if m = 1 <<< 52 then 1 else 2)
  middle := 4 * m
  high := 4 * m + 2
  exponent := q - 2
  closed := m % 2 = 0

/-- Whether a point, brought to the interval's unit as `c / d`, lies inside. -/
def Interval.holds (i : Interval) (c d : Nat) : Bool :=
  if i.closed then i.low * d ≤ c && c ≤ i.high * d else i.low * d < c && c < i.high * d

/-- The factors `(a, b)` for which `10 ^ k` is `a / b` units of `2 ^ q`. -/
def gridUnit (k q : Int) : Nat × Nat :=
  let tens := match k with
    | .ofNat n => (Nat.pow 10 n, 1)
    | .negSucc n => (1, Nat.pow 10 (n + 1))
  let twos := match q with
    | .ofNat n => (1, 1 <<< n)
    | .negSucc n => (1 <<< (n + 1), 1)
  (tens.1 * twos.1, tens.2 * twos.2)

/-- The point of the grid `10 ^ k` in the interval that is nearest to its middle; of two
equally near ones `tieUp` chooses. -/
def nearestOnGrid? (tieUp : Nat → Bool) (i : Interval) (k : Int) : Option Nat :=
  let (a, b) := gridUnit k i.exponent
  let below := i.middle * b / a
  let above := below + 1
  let okBelow := i.holds (below * a) b
  let okAbove := i.holds (above * a) b
  match okBelow, okAbove with
  | false, false => none
  | true, false => some below
  | false, true => some above
  | true, true =>
    let gapBelow := i.middle * b - below * a
    let gapAbove := above * a - i.middle * b
    if gapBelow < gapAbove then some below
    else if gapAbove < gapBelow then some above
    else some (if tieUp below then above else below)

/-- Goes from coarse grids to fine ones until one has a point in the interval. -/
def searchGrids (tieUp : Nat → Bool) (i : Interval) (k : Int) : Nat → Scientific
  | 0 => ⟨i.middle, k⟩
  | steps + 1 =>
    match nearestOnGrid? tieUp i k with
    | some c => ⟨c, k⟩
    | none => searchGrids tieUp i (k - 1) steps

/-- The shortest decimal that rounds to `m · 2 ^ q`, for a significand of at most 53 bits. -/
def shortest (tieUp : Nat → Bool) (m : Nat) (q : Int) : Scientific :=
  let top : Int := (Nat.log2 m : Int) + q
  -- `30103 / 100000` is about the logarithm of two: the search begins above the number
  searchGrids tieUp (intervalOf m q) (top * 30103 / 100000 + 2) 24

/-! ## Placing the digits -/

/-- A decimal without an exponent: whole digits, and a fraction where there is one. -/
def Scientific.positional (d : Scientific) : List Char :=
  let ds := PathSpace.Decimal.digits d.digits
  match d.exponent with
  | .ofNat n => ds ++ List.replicate n '0'
  | .negSucc n =>
    let places := n + 1
    if ds.length ≤ places then
      '0' :: '.' :: List.replicate (places - ds.length) '0' ++ ds
    else
      ds.take (ds.length - places) ++ '.' :: ds.drop (ds.length - places)

namespace Binary64

/-- The text of a number in a payload: the fewest digits that read back, never an exponent. -/
def text (x : Binary64) : String :=
  if x.isNaN then "NaN" else
  let sign := if x.isNegative then "-" else ""
  if x.isInfinite then sign ++ "inf"
  else if x.isZero then sign ++ "0"
  else sign ++ String.ofList (shortest (fun _ => true) x.significand x.exponent).positional

/-- The text of a finite number in a JSON document: a point or an exponent is always there. -/
def jsonText (x : Binary64) : String :=
  let sign := if x.isNegative then "-" else ""
  if x.isZero then sign ++ "0.0" else
  let d := shortest (fun below => below % 2 = 1) x.significand x.exponent
  let ds := digits d.digits
  let point : Int := ds.length + d.exponent
  let body :=
    if 0 ≤ d.exponent ∧ point ≤ 16 then
      d.positional ++ ['.', '0']
    else if -5 < point ∧ point ≤ 16 then
      d.positional
    else
      let mantissa := match ds with
        | [] => []
        | [c] => [c]
        | c :: rest => c :: '.' :: rest
      mantissa ++ 'e' :: (intText (point - 1)).toList
  sign ++ String.ofList body

end Binary64

end PathSpace.Decimal
