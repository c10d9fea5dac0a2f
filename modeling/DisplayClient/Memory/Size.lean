/-!
# Sizes

Offsets, counts and lengths are natural numbers below `2 ^ 64`. Sums and
products are exact: one that does not fit in 64 bits is reported, never
reduced.

* `Size.add?_eq_some_iff`, `Size.mul?_eq_some_iff`: when they fit.
-/

namespace DisplayClient

/-- Every size is below this. -/
abbrev sizeLimit : Nat := UInt64.size

namespace Size

/-- The largest size. -/
def max : Nat := sizeLimit - 1

/-- The sum, if it is a size. -/
def add? (a b : Nat) : Option Nat :=
  if a + b < sizeLimit then some (a + b) else none

/-- The product, if it is a size. -/
def mul? (a b : Nat) : Option Nat :=
  if a * b < sizeLimit then some (a * b) else none

theorem add?_eq_some_iff {a b c : Nat} : add? a b = some c ↔ a + b < sizeLimit ∧ a + b = c := by
  simp only [add?, Option.ite_none_right_eq_some, Option.some.injEq]

theorem add?_eq_none_iff {a b : Nat} : add? a b = none ↔ sizeLimit ≤ a + b := by
  simp [add?]

theorem mul?_eq_some_iff {a b c : Nat} : mul? a b = some c ↔ a * b < sizeLimit ∧ a * b = c := by
  simp only [mul?, Option.ite_none_right_eq_some, Option.some.injEq]

theorem mul?_eq_none_iff {a b : Nat} : mul? a b = none ↔ sizeLimit ≤ a * b := by
  simp [mul?]

end Size

end DisplayClient
