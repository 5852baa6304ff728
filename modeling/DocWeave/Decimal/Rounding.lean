/-!
# Rounding quotients

The whole number nearest to a quotient; a half goes to the even neighbour.

* `halfEven_error` — the result is at most half a unit away
-/

namespace DocWeave.Decimal

/-- The whole number nearest to `num / den`, the even one of two that are equally near. -/
def halfEven (num den : Nat) : Nat :=
  let low := num / den
  let twice := 2 * (num % den)
  if twice < den ∨ (twice = den ∧ low % 2 = 0) then low else low + 1

theorem halfEven_error (num den : Nat) (h : 0 < den) :
    2 * num ≤ 2 * (halfEven num den * den) + den ∧ 2 * (halfEven num den * den) ≤ 2 * num + den := by
  have hdiv := Nat.div_add_mod num den
  have hlt := Nat.mod_lt num h
  rw [Nat.mul_comm] at hdiv
  unfold halfEven
  simp only
  split
  · omega
  · rw [Nat.add_mul]
    omega

/-- A whole number is its own rounding. -/
theorem halfEven_mul (n den : Nat) (h : 0 < den) : halfEven (n * den) den = n := by
  simp [halfEven, Nat.mul_div_cancel n h, h]

/-- A power of ten. -/
def tenTo (k : Nat) : Nat := Nat.pow 10 k

/-- A power of two. -/
def twoTo (k : Nat) : Nat := Nat.pow 2 k

/-- The digits of a number to base ten. -/
def digits (n : Nat) : List Char := (toString n).toList

end DocWeave.Decimal
