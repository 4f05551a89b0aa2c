/-! # Runs of case mappings

Characters and their counterparts of another case often lie in step: `A` to `Z` and `a` to
`z`, or the pairs of `Āā` to `Įį`.  A `CaseRun` maps all characters of such a run.
-/

namespace PathSpace.Unicode

/-- Characters from `first` to `last`, `step` apart, whose counterparts begin at `target` and
lie as far apart. -/
structure CaseRun where
  first : Nat
  last : Nat
  step : Nat
  target : Nat

namespace CaseRun

/-- The counterpart of a character of the run. -/
def map? (r : CaseRun) (n : Nat) : Option Nat :=
  if r.first ≤ n ∧ n ≤ r.last ∧ (n - r.first) % r.step = 0 then some (r.target + (n - r.first))
  else none

/-- The character of the run that has a counterpart. -/
def source? (r : CaseRun) (n : Nat) : Option Nat :=
  if r.target ≤ n ∧ n ≤ r.target + (r.last - r.first) ∧ (n - r.target) % r.step = 0 then
    some (r.first + (n - r.target))
  else none

/-- The counterparts of a run, in order. -/
def targets (r : CaseRun) : List Nat :=
  (List.range ((r.last - r.first) / r.step + 1)).map fun k => r.target + r.step * k

end CaseRun

end PathSpace.Unicode
