/-!
# Texts cut at a separator

* `cutFirst_eq_some_iff`: what stands before and after the first separator;
* `cutLast_eq_some_iff`: what stands before and after the last one.
-/

namespace DisplayClient.Text

/-- What stands before and after the first `c`. -/
def cutFirst (c : Char) : List Char → Option (List Char × List Char)
  | [] => none
  | x :: xs => if x = c then some ([], xs) else (cutFirst c xs).map fun (a, b) => (x :: a, b)

/-- What stands before and after the last `c`. -/
def cutLast (c : Char) : List Char → Option (List Char × List Char)
  | [] => none
  | x :: xs =>
    match cutLast c xs with
    | some (a, b) => some (x :: a, b)
    | none => if x = c then some ([], xs) else none

theorem cutFirst_eq_none_iff {c : Char} {xs : List Char} : cutFirst c xs = none ↔ c ∉ xs := by
  induction xs with
  | nil => simp [cutFirst]
  | cons x xs ih =>
    by_cases h : x = c
    · simp [cutFirst, h]
    · simp [cutFirst, h, ih, Ne.symm h]

theorem cutFirst_eq_some_iff {c : Char} {xs a b : List Char} :
    cutFirst c xs = some (a, b) ↔ xs = a ++ c :: b ∧ c ∉ a := by
  induction xs generalizing a with
  | nil => simp [cutFirst]
  | cons x xs ih =>
    by_cases h : x = c
    · subst h
      cases a with
      | nil => simp [cutFirst]
      | cons y a => simp +contextual [cutFirst]
    · cases a with
      | nil => simp [cutFirst, h]
      | cons y a => simp [cutFirst, h, ih]; grind

theorem cutLast_eq_none_iff {c : Char} {xs : List Char} : cutLast c xs = none ↔ c ∉ xs := by
  induction xs with
  | nil => simp [cutLast]
  | cons x xs ih =>
    cases hxs : cutLast c xs with
    | none => by_cases h : x = c <;> grind [cutLast]
    | some p => grind [cutLast]

theorem cutLast_eq_some_iff {c : Char} {xs a b : List Char} :
    cutLast c xs = some (a, b) ↔ xs = a ++ c :: b ∧ c ∉ b := by
  induction xs generalizing a b with
  | nil => simp [cutLast]
  | cons x xs ih =>
    cases hxs : cutLast c xs with
    | none =>
      have hc := cutLast_eq_none_iff.mp hxs
      cases a with
      | nil => by_cases h : x = c <;> grind [cutLast]
      | cons y a => by_cases h : x = c <;> grind [cutLast]
    | some p =>
      obtain ⟨a', b'⟩ := p
      have hc : xs = a' ++ c :: b' ∧ c ∉ b' := ih.mp hxs
      cases a with
      | nil => grind [cutLast]
      | cons y a =>
        have := @ih a b
        grind [cutLast]

end DisplayClient.Text
