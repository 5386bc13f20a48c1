import Mathlib.Tactic
import RuleFixtures.Number.Order

/-!
Quotients of naturals as doubles.

A quotient is rounded once, so its integer part could be carried over to the next whole number.
Below `2 ^ 53` this does not happen: there the double keeps the integer part of the exact
quotient, and a quotient without remainder is exact.

* `units?_ofRatio` gives the magnitude of a rounded quotient in units, for quotients that are far
  enough from the end of the finite doubles.
* `truncate?_ofRatio`: the integer part of the rounded quotient is the quotient of naturals.
* `roundToInt?_ofRatio_mul`: a quotient without remainder rounds to itself.
-/

namespace RuleFixtures

namespace Rounding

/-- Rounding does not pass a whole number from below. -/
lemma nearest_le {num den k : ℕ} (hden : 0 < den) (h : num ≤ k * den) : nearest num den ≤ k := by
  have hclose := (nearest_close num hden).1
  by_contra hlt
  have hmul : (k + 1) * den ≤ nearest num den * den := Nat.mul_le_mul_right den (by omega)
  rw [Nat.add_mul] at hmul
  omega

/-- Rounding does not pass a whole number from above. -/
lemma le_nearest {num den k : ℕ} (hden : 0 < den) (h : k * den ≤ num) : k ≤ nearest num den := by
  have hclose := (nearest_close num hden).2
  by_contra hlt
  have hmul : (nearest num den + 1) * den ≤ k * den := Nat.mul_le_mul_right den (by omega)
  rw [Nat.add_mul] at hmul
  omega

/-- A quotient more than a half below a whole number is rounded to a lesser one. -/
lemma nearest_lt {num den k : ℕ} (hden : 0 < den) (h : 2 * num + den < 2 * (k * den)) :
    nearest num den < k := by
  have hclose := (nearest_close num hden).1
  by_contra hle
  have hmul : k * den ≤ nearest num den * den := Nat.mul_le_mul_right den (by omega)
  omega

end Rounding

namespace Binary64

/-- One is two to this power, in units. -/
def unitScale : ℕ := 1074

lemma unitsOfOne_eq : unitsOfOne = 2 ^ unitScale := by
  decide +kernel

lemma unitsOfOne_pos : 0 < unitsOfOne := by
  rw [unitsOfOne_eq]
  positivity

/-- The steps of the scales up to that of one divide it. -/
lemma two_pow_dvd_unitsOfOne {scale : ℕ} (h : scale ≤ unitScale) : 2 ^ scale ∣ unitsOfOne := by
  rw [unitsOfOne_eq]
  exact pow_dvd_pow 2 h

lemma two_pow_le_unitsOfOne : 2 ^ 53 ≤ unitsOfOne := by
  rw [unitsOfOne_eq]
  exact Nat.pow_le_pow_right (by norm_num) (by decide)

/-- The units of a packed mantissa are those of the pair it was given as. -/
lemma units?_pack {mantissa scale : ℕ} (negative : Bool) (hmantissa : mantissa ≤ 2 ^ 53)
    (hscale : scale < 2045) (hleast : scale = 0 ∨ 2 ^ 52 ≤ mantissa) :
    (pack negative mantissa scale).units? = some (negative, mantissa * 2 ^ scale) := by
  by_cases hfull : mantissa = Nat.pow 2 53
  · have hcanonical : Canonical (Nat.pow 2 52) (scale + 1) :=
      ⟨by decide, by omega, Or.inr (le_refl _)⟩
    have hunits : Nat.pow 2 52 * Nat.pow 2 (scale + 1) = mantissa * 2 ^ scale := by
      rw [hfull]
      change 2 ^ 52 * 2 ^ (scale + 1) = 2 ^ 53 * 2 ^ scale
      rw [← pow_add, ← pow_add]
      congr 1
      omega
    rw [pack, if_pos hfull]
    simp only [dif_pos hcanonical, units?, hunits]
  · have hcanonical : Canonical mantissa scale :=
      ⟨lt_of_le_of_ne hmantissa hfull, by omega, hleast⟩
    rw [pack, if_neg hfull]
    simp only [dif_pos hcanonical, units?]
    rfl

/-- The scale at which a quotient is rounded leaves it at least `2 ^ 52` steps, unless it is the
least one, and fewer than `2 ^ 53`. -/
lemma scale_bounds (quotient : ℕ) :
    (Nat.log2 quotient - 52 = 0 ∨ 2 ^ 52 * 2 ^ (Nat.log2 quotient - 52) ≤ quotient) ∧
      quotient < 2 ^ 53 * 2 ^ (Nat.log2 quotient - 52) := by
  rw [← pow_add, ← pow_add]
  constructor
  · by_cases h : Nat.log2 quotient ≤ 52
    · exact Or.inl (by omega)
    · have hne : quotient ≠ 0 := by
        rintro rfl
        simp at h
      refine Or.inr ?_
      rw [show 52 + (Nat.log2 quotient - 52) = Nat.log2 quotient from by omega]
      exact Nat.log2_self_le hne
  · exact lt_of_lt_of_le Nat.lt_log2_self (Nat.pow_le_pow_right (by norm_num) (by omega))

/-- The scale at which the quotient of two naturals is rounded. -/
def ratioScale (num den : ℕ) : ℕ := Nat.log2 (num * unitsOfOne / den) - 52

lemma ratioScale_bounds (num den : ℕ) :
    (ratioScale num den = 0 ∨ 2 ^ 52 * 2 ^ ratioScale num den ≤ num * unitsOfOne / den) ∧
      num * unitsOfOne / den < 2 ^ 53 * 2 ^ ratioScale num den :=
  scale_bounds (num * unitsOfOne / den)

/-- A quotient is a whole number of steps at its scale, rounded to nearest, as long as the scale
is below the largest one. -/
lemma units?_ofRatio (negative : Bool) (num : ℕ) {den : ℕ} (hden : 0 < den)
    (hscale : ratioScale num den < 2045) :
    (ofRatio negative num den).units? =
      some (negative, Rounding.nearest (num * unitsOfOne) (den * 2 ^ ratioScale num den) *
        2 ^ ratioScale num den) := by
  obtain ⟨hleast, hbelow⟩ := ratioScale_bounds num den
  have hpos : 0 < den * 2 ^ ratioScale num den := Nat.mul_pos hden (by positivity)
  refine units?_pack negative ?_ hscale ?_
  · refine Rounding.nearest_le hpos ?_
    have h := (Nat.div_lt_iff_lt_mul hden).1 hbelow
    calc num * unitsOfOne ≤ 2 ^ 53 * 2 ^ ratioScale num den * den := h.le
      _ = 2 ^ 53 * (den * 2 ^ ratioScale num den) := by ring
  · refine hleast.imp_right fun h => Rounding.le_nearest hpos ?_
    calc 2 ^ 52 * (den * 2 ^ ratioScale num den) = 2 ^ 52 * 2 ^ ratioScale num den * den := by ring
      _ ≤ num * unitsOfOne := (Nat.le_div_iff_mul_le hden).1 h

/-- Quotients below `2 ^ 53` are rounded at a scale up to that of one. -/
lemma ratioScale_le {num den : ℕ} (hden : 0 < den) (h : num < 2 ^ 53 * den) :
    ratioScale num den ≤ unitScale := by
  have hbelow : num * unitsOfOne / den < 2 ^ (53 + unitScale) := by
    rw [Nat.div_lt_iff_lt_mul hden, pow_add, ← unitsOfOne_eq]
    calc num * unitsOfOne
        < 2 ^ 53 * den * unitsOfOne := Nat.mul_lt_mul_of_pos_right h unitsOfOne_pos
      _ = 2 ^ 53 * unitsOfOne * den := by ring
  by_cases hzero : num * unitsOfOne / den = 0
  · simp [ratioScale, hzero]
  · have := (Nat.log2_lt hzero).2 hbelow
    rw [ratioScale]
    omega

/-- A quotient without remainder is exact. -/
lemma units?_ofRatio_mul (negative : Bool) {q den : ℕ} (hden : 0 < den) (hq : q < 2 ^ 53) :
    (ofRatio negative (q * den) den).units? = some (negative, q * unitsOfOne) := by
  have hscale := ratioScale_le hden (Nat.mul_lt_mul_of_pos_right hq hden)
  obtain ⟨step, hstep⟩ := two_pow_dvd_unitsOfOne hscale
  rw [units?_ofRatio negative (q * den) hden (lt_of_le_of_lt hscale (by decide)), hstep]
  generalize ratioScale (q * den) den = scale
  have hexact : q * den * (2 ^ scale * step) = q * step * (den * 2 ^ scale) := by ring
  have hunits : q * step * 2 ^ scale = q * (2 ^ scale * step) := by ring
  rw [hexact, Rounding.nearest_mul_right _ (Nat.mul_pos hden (by positivity)), hunits]

/-- The rounded quotient stays below the whole number after the exact one: that is at least one
part in `den` away, and half a step is less. -/
lemma ratio_below_next {num den scale one : ℕ} (hden : 0 < den) (hnum : num < 2 ^ 53)
    (hone : 2 ^ 53 ≤ one) (hleast : scale = 0 ∨ 2 ^ 52 * 2 ^ scale ≤ num * one / den) :
    2 * (num * one) + den * 2 ^ scale < 2 * ((num / den + 1) * den * one) := by
  have hgap : num < (num / den + 1) * den := by
    rw [Nat.mul_comm]
    exact Nat.lt_mul_div_succ num hden
  obtain ⟨extra, hextra⟩ := Nat.exists_eq_add_of_lt hgap
  have hstep : den * 2 ^ scale < 2 * one + 2 * (extra * one) := by
    rcases hleast with rfl | hle
    · -- at the least scale the divisor itself is the step
      have hdivisor : den ≤ (num / den + 1) * den := Nat.le_mul_of_pos_left den (Nat.succ_pos _)
      have hmul : extra ≤ extra * one := Nat.le_mul_of_pos_right extra (by omega)
      omega
    · have hlt : 2 ^ 52 * (den * 2 ^ scale) < 2 ^ 52 * (2 * one) := by
        calc 2 ^ 52 * (den * 2 ^ scale) = 2 ^ 52 * 2 ^ scale * den := by ring
          _ ≤ num * one := (Nat.le_div_iff_mul_le hden).1 hle
          _ < 2 ^ 53 * one := Nat.mul_lt_mul_of_pos_right hnum (by omega)
          _ = 2 ^ 52 * (2 * one) := by ring
      have := Nat.lt_of_mul_lt_mul_left hlt
      omega
  calc 2 * (num * one) + den * 2 ^ scale
      < 2 * (num * one) + (2 * one + 2 * (extra * one)) := Nat.add_lt_add_left hstep _
    _ = 2 * ((num + extra + 1) * one) := by ring
    _ = 2 * ((num / den + 1) * den * one) := by rw [hextra]

/-- Below `2 ^ 53` a rounded quotient keeps the integer part of the exact one. -/
theorem truncate?_ofRatio {num den : ℕ} (hden : 0 < den) (hnum : num < 2 ^ 53) :
    (ofRatio false num den).truncate? = some ((num / den : ℕ) : ℤ) := by
  have hscale := ratioScale_le hden (lt_of_lt_of_le hnum (Nat.le_mul_of_pos_right _ hden))
  obtain ⟨step, hstep⟩ := two_pow_dvd_unitsOfOne hscale
  have hbelow := ratio_below_next hden hnum two_pow_le_unitsOfOne (ratioScale_bounds num den).1
  have hunits := units?_ofRatio false num hden (lt_of_le_of_lt hscale (by decide))
  simp only [truncate?, hunits, Option.map_some, Bool.false_eq_true, if_false]
  rw [hstep] at hbelow ⊢
  generalize ratioScale num den = scale at hbelow ⊢
  have hpos : 0 < den * 2 ^ scale := Nat.mul_pos hden (by positivity)
  -- the rounded quotient lies between the integer part and the next whole number
  have hlower : num / den * step ≤
      Rounding.nearest (num * (2 ^ scale * step)) (den * 2 ^ scale) := by
    refine Rounding.le_nearest hpos ?_
    calc num / den * step * (den * 2 ^ scale) = num / den * den * (2 ^ scale * step) := by ring
      _ ≤ num * (2 ^ scale * step) := Nat.mul_le_mul_right _ (Nat.div_mul_le_self num den)
  have hupper : Rounding.nearest (num * (2 ^ scale * step)) (den * 2 ^ scale) <
      (num / den + 1) * step := by
    refine Rounding.nearest_lt hpos ?_
    calc 2 * (num * (2 ^ scale * step)) + den * 2 ^ scale
        < 2 * ((num / den + 1) * den * (2 ^ scale * step)) := hbelow
      _ = 2 * ((num / den + 1) * step * (den * 2 ^ scale)) := by ring
  rw [Nat.mul_comm (2 ^ scale) step, Nat.mul_div_mul_right _ _ (by positivity : 0 < 2 ^ scale),
    Nat.mul_comm step, Nat.div_eq_of_lt_le hlower hupper]

/-- The integer part of a quotient without remainder. -/
lemma truncate?_ofRatio_mul {q den : ℕ} (hden : 0 < den) (hq : q < 2 ^ 53) :
    (ofRatio false (q * den) den).truncate? = some (q : ℤ) := by
  simp only [truncate?, units?_ofRatio_mul false hden hq, Option.map_some, Bool.false_eq_true,
    if_false]
  rw [Nat.mul_div_cancel _ unitsOfOne_pos]

/-- A quotient without remainder, rounded to an integer. -/
theorem roundToInt?_ofRatio_mul {q den : ℕ} (hden : 0 < den) (hq : q < 2 ^ 53) :
    (ofRatio false (q * den) den).roundToInt? = some (q : ℤ) := by
  simp only [roundToInt?, signedUnits?, units?_ofRatio_mul false hden hq, Option.map_some, signed,
    Bool.false_eq_true, if_false, Rounding.nearestInt]
  rw [if_neg (by omega), Int.natAbs_natCast, Rounding.nearest_mul_right _ unitsOfOne_pos]

/-- The quotient of two naturals has no sign. -/
lemma ofIntRatio?_natCast (num : ℕ) {den : ℕ} (hden : 0 < den) :
    ofIntRatio? (num : ℤ) (den : ℤ) = some (ofRatio false num den) := by
  have hne : den ≠ 0 := Nat.ne_of_gt hden
  have hnum : ¬ (num : ℤ) < 0 := by omega
  have hpos : ¬ (den : ℤ) < 0 := by omega
  simp [ofIntRatio?, hne, hnum, hpos]

end Binary64

end RuleFixtures
