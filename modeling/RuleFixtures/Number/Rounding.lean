/-!
Rounding a quotient to the nearest integer, a half going to the even neighbour.

* `Rounding.nearest` rounds a quotient of naturals; `Rounding.nearestInt` lets the
  numerator have a sign and is odd in it.
* `nearest_close`: the rounded quotient is within half a unit of the exact one.
* `nearest_even_of_tie`: on an exact half the result is even.
-/

namespace RuleFixtures.Rounding

/-- The integer nearest to `num / den`, a half going to the even neighbour. -/
def nearest (num den : Nat) : Nat :=
  let q := num / den
  let r := num % den
  if 2 * r < den then q
  else if den < 2 * r then q + 1
  else if q % 2 = 0 then q else q + 1

/-- The integer nearest to `num / den`, a half going to the even neighbour, for either
sign of the numerator. -/
def nearestInt (num : Int) (den : Nat) : Int :=
  if num < 0 then -(nearest num.natAbs den : Int) else (nearest num.natAbs den : Int)

theorem nearest_close (num : Nat) {den : Nat} (h : 0 < den) :
    2 * (nearest num den * den) ≤ 2 * num + den ∧
      2 * num ≤ 2 * (nearest num den * den) + den := by
  have hdiv : den * (num / den) + num % den = num := Nat.div_add_mod num den
  have hlt : num % den < den := Nat.mod_lt _ h
  have hsucc : (num / den + 1) * den = den * (num / den) + den := by
    rw [Nat.add_mul, Nat.mul_comm]; simp
  have hcomm : num / den * den = den * (num / den) := Nat.mul_comm ..
  simp only [nearest]
  generalize den * (num / den) = p at *
  split
  · omega
  · split
    · omega
    · split <;> omega

theorem nearest_even_of_tie {num den : Nat} (h : 2 * (num % den) = den) :
    nearest num den % 2 = 0 := by
  simp only [nearest, h, Nat.lt_irrefl, if_false]
  split <;> omega

/-- A quotient without remainder is its own nearest integer. -/
theorem nearest_mul_right (q : Nat) {den : Nat} (h : 0 < den) : nearest (q * den) den = q := by
  simp [nearest, Nat.mul_div_cancel _ h, h]

end RuleFixtures.Rounding
