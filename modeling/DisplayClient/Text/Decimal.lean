/-!
# Decimal numbers

A number is written with the ten ASCII digits; one plus sign may stand in
front, and so may any number of zeros.
-/

namespace DisplayClient.Text

/-- The text without a leading plus sign. -/
def dropPlus : List Char → List Char
  | '+' :: digits => digits
  | digits => digits

/-- Reads a decimal number below `limit`. -/
def decimal? (limit : Nat) (text : List Char) : Option Nat :=
  let digits := dropPlus text
  if digits ≠ [] ∧ digits.all Char.isDigit then
    let n := Nat.ofDigitChars 10 digits 0
    if n < limit then some n else none
  else none

/-- What a decimal number is written with, reads back. -/
theorem decimal?_toDigits {limit n : Nat} (h : n < limit) :
    decimal? limit (Nat.toDigits 10 n) = some n := by
  have hd : ∀ c ∈ Nat.toDigits 10 n, c.isDigit :=
    fun c hc => Nat.isDigit_of_mem_toDigits (by decide) (by decide) hc
  have hp : dropPlus (Nat.toDigits 10 n) = Nat.toDigits 10 n := by
    unfold dropPlus
    split
    · next digits heq =>
      have := hd '+' (by rw [heq]; exact List.mem_cons_self)
      simp at this
    · rfl
  have ha : (Nat.toDigits 10 n).all Char.isDigit = true := List.all_eq_true.mpr hd
  simp [decimal?, hp, ha, Nat.toDigits_ne_nil, Nat.ofDigitChars_ten_toDigits, h]

end DisplayClient.Text
