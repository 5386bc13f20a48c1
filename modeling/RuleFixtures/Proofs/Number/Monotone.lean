import Mathlib.Tactic
import RuleFixtures.Proofs.Number.DoubleRounding

/-!
Rounding keeps the order of quotients.

A quotient is first rounded to a double and then to an integer. Each step keeps the order, also
between quotients that are rounded at different scales: a double of the finer scale is at most the
least one of the next scale.

* `Rounding.nearest_mono`: of two numerators the greater one has the greater nearest integer.
* `Binary64.ratioUnits` is the magnitude of the double of a quotient, and `Binary64.ratioUnits_mono`
  that it grows with the numerator.
* `Binary64.roundToInt?_ofIntRatio_natCast` rounds the double of a quotient of naturals.
-/

namespace RuleFixtures

namespace Rounding

/-- A greater numerator has a greater nearest integer. -/
lemma nearest_mono {num num' den : ℕ} (hden : 0 < den) (h : num ≤ num') :
    nearest num den ≤ nearest num' den := by
  have hbelow := (nearest_close num hden).1
  have habove := (nearest_close num' hden).2
  by_contra hlt
  have hmul : (nearest num' den + 1) * den ≤ nearest num den * den :=
    Nat.mul_le_mul_right den (by omega)
  rw [Nat.add_mul] at hmul
  -- both quotients would be the same middle
  obtain rfl : num = num' := by omega
  omega

end Rounding

namespace Binary64

/-- The magnitude in units of the double nearest to a quotient. -/
def ratioUnits (num den : ℕ) : ℕ :=
  Rounding.nearest (num * unitsOfOne) (den * 2 ^ ratioScale num den) * 2 ^ ratioScale num den

lemma ratioScale_mono {num num' : ℕ} (den : ℕ) (h : num ≤ num') :
    ratioScale num den ≤ ratioScale num' den := by
  have hquotient : num * unitsOfOne / den ≤ num' * unitsOfOne / den :=
    Nat.div_le_div_right (Nat.mul_le_mul_right _ h)
  have hlog := Nat.log_mono_right (b := 2) hquotient
  rw [← Nat.log2_eq_log_two, ← Nat.log2_eq_log_two] at hlog
  exact Nat.sub_le_sub_right hlog 52

/-- The double of a quotient is at most `2 ^ 53` steps of its scale. -/
lemma ratioUnits_le (num : ℕ) {den : ℕ} (hden : 0 < den) :
    ratioUnits num den ≤ 2 ^ 53 * 2 ^ ratioScale num den := by
  have hpos : 0 < den * 2 ^ ratioScale num den := Nat.mul_pos hden (by positivity)
  refine Nat.mul_le_mul_right _ (Rounding.nearest_le hpos ?_)
  calc num * unitsOfOne ≤ 2 ^ 53 * 2 ^ ratioScale num den * den :=
        ((Nat.div_lt_iff_lt_mul hden).1 (ratioScale_bounds num den).2).le
    _ = 2 ^ 53 * (den * 2 ^ ratioScale num den) := by ring

/-- Above the least scale it is at least `2 ^ 52` steps. -/
lemma le_ratioUnits {num den : ℕ} (hden : 0 < den) (h : ratioScale num den ≠ 0) :
    2 ^ 52 * 2 ^ ratioScale num den ≤ ratioUnits num den := by
  have hpos : 0 < den * 2 ^ ratioScale num den := Nat.mul_pos hden (by positivity)
  refine Nat.mul_le_mul_right _ (Rounding.le_nearest hpos ?_)
  have hle := (ratioScale_bounds num den).1.resolve_left h
  calc 2 ^ 52 * (den * 2 ^ ratioScale num den) = 2 ^ 52 * 2 ^ ratioScale num den * den := by ring
    _ ≤ num * unitsOfOne := (Nat.le_div_iff_mul_le hden).1 hle

/-- The double of a quotient grows with the numerator. -/
theorem ratioUnits_mono {num num' den : ℕ} (hden : 0 < den) (h : num ≤ num') :
    ratioUnits num den ≤ ratioUnits num' den := by
  rcases Nat.eq_or_lt_of_le (ratioScale_mono den h) with hsame | hfiner
  · rw [ratioUnits, ratioUnits, hsame]
    have hpos : 0 < den * 2 ^ ratioScale num' den := Nat.mul_pos hden (by positivity)
    exact Nat.mul_le_mul_right _ (Rounding.nearest_mono hpos (Nat.mul_le_mul_right _ h))
  · calc ratioUnits num den ≤ 2 ^ 53 * 2 ^ ratioScale num den := ratioUnits_le num hden
      _ = 2 ^ 52 * 2 ^ (ratioScale num den + 1) := by ring
      _ ≤ 2 ^ 52 * 2 ^ ratioScale num' den :=
        Nat.mul_le_mul_left _ (Nat.pow_le_pow_right (by norm_num) hfiner)
      _ ≤ ratioUnits num' den := le_ratioUnits hden (by omega)

/-- Quotients below `2 ^ 63` are rounded far below the end of the finite doubles. -/
lemma ratioScale_lt {num den : ℕ} (hnum : num < 2 ^ 63) : ratioScale num den < 2045 := by
  have hquotient : num * unitsOfOne / den < 2 ^ (63 + unitScale) := by
    refine lt_of_le_of_lt (Nat.div_le_self _ _) ?_
    rw [pow_add, ← unitsOfOne_eq]
    exact Nat.mul_lt_mul_of_pos_right hnum unitsOfOne_pos
  by_cases hzero : num * unitsOfOne / den = 0
  · simp [ratioScale, hzero]
  · have hlog := (Nat.log2_lt hzero).2 hquotient
    rw [ratioScale]
    have : unitScale = 1074 := rfl
    omega

/-- A quotient of naturals is rounded to the integer nearest to its double. -/
lemma roundToInt?_ofIntRatio_natCast {num den : ℕ} (hden : 0 < den) (hnum : num < 2 ^ 63) :
    (ofIntRatio? (num : ℤ) (den : ℤ)).bind roundToInt? =
      some (Rounding.nearest (ratioUnits num den) unitsOfOne : ℤ) := by
  have hunits := units?_ofRatio false num hden (ratioScale_lt hnum)
  rw [ofIntRatio?_natCast num hden, Option.bind_some, roundToInt?, signedUnits?, hunits]
  simp only [Option.map_some, signed, Bool.false_eq_true, if_false, Rounding.nearestInt]
  rw [if_neg (by omega), Int.natAbs_natCast, ratioUnits]

end Binary64

end RuleFixtures
