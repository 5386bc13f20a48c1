import Mathlib.Tactic
import RuleFixtures.Proofs.Number.Monotone
import RuleFixtures.Time.Instant

/-!
Durations of whole milliseconds.

The milliseconds of a duration are rounded three times: the seconds to a double, their product with
a thousand to a double, and this to an integer. The two doubles are off by at most one part in
`2 ^ 53` each, which below `2 ^ 50` milliseconds is less than the half that would lead to another
integer.

* `Binary64.ratioUnits_near`: how far the double of a quotient can be from the quotient.
* `Binary64.mul_eq_ofRatio`: the product of finite doubles is a rounded quotient.
* `Duration.milliseconds_eq`: a duration of whole milliseconds has just these.
-/

namespace RuleFixtures

namespace Binary64

/-- One is more than a thousand steps of the doubles next to it. -/
lemma thousand_steps_le_unitsOfOne : 2 ^ 52 * 1000 ≤ unitsOfOne := by
  rw [unitsOfOne_eq]
  exact le_trans (by norm_num : 2 ^ 52 * 1000 ≤ 2 ^ 62)
    (Nat.pow_le_pow_right (by norm_num) (by decide))

/-- The double of a quotient is off by at most one part in `2 ^ 53`, unless the quotient is so small
that its double has a shorter mantissa. -/
lemma ratioUnits_near {num den : ℕ} (hden : 0 < den) (hlarge : 2 ^ 52 * den ≤ num * unitsOfOne) :
    2 ^ 53 * (ratioUnits num den * den) ≤ (2 ^ 53 + 1) * (num * unitsOfOne) ∧
      2 ^ 53 * (num * unitsOfOne) ≤ 2 ^ 53 * (ratioUnits num den * den) + num * unitsOfOne := by
  have hpos : 0 < den * 2 ^ ratioScale num den := Nat.mul_pos hden (by positivity)
  obtain ⟨hbelow, habove⟩ := Rounding.nearest_close (num * unitsOfOne) hpos
  have hunits : Rounding.nearest (num * unitsOfOne) (den * 2 ^ ratioScale num den) *
      (den * 2 ^ ratioScale num den) = ratioUnits num den * den := by
    rw [ratioUnits]
    generalize Rounding.nearest _ _ = steps, 2 ^ ratioScale num den = step
    ring
  have hstep : 2 ^ 52 * (den * 2 ^ ratioScale num den) ≤ num * unitsOfOne := by
    rcases (ratioScale_bounds num den).1 with hleast | hle
    · simpa only [hleast, pow_zero, Nat.mul_one] using hlarge
    · calc 2 ^ 52 * (den * 2 ^ ratioScale num den) = 2 ^ 52 * 2 ^ ratioScale num den * den := by
            ring
        _ ≤ num * unitsOfOne := (Nat.le_div_iff_mul_le hden).1 hle
  rw [hunits] at hbelow habove
  constructor <;> omega

/-- A natural below `2 ^ 53` is a double. -/
lemma units?_ofInt {n : ℕ} (hn : n < 2 ^ 53) :
    (ofInt n).units? = some (false, n * unitsOfOne) := by
  have hexact := units?_ofRatio_mul false Nat.one_pos hn
  rw [Nat.mul_one] at hexact
  rw [ofInt, ofQuotient, decide_eq_false (by omega : ¬ (n : ℤ) < 0), Int.natAbs_natCast, hexact]

/-- The product of finite doubles is rounded from the product of their magnitudes. -/
lemma mul_eq_ofRatio {x y : Binary64} {s t : Bool} {a b : ℕ} (hx : x.units? = some (s, a))
    (hy : y.units? = some (t, b)) :
    x.mul y = ofRatio (s != t) (a * b) (unitsOfOne * unitsOfOne) := by
  cases x with
  | finite negative mantissa scale canonical =>
    cases y with
    | finite negative' mantissa' scale' canonical' =>
      obtain ⟨rfl, rfl⟩ := Prod.mk.inj (Option.some.inj hx)
      obtain ⟨rfl, rfl⟩ := Prod.mk.inj (Option.some.inj hy)
      rfl
    | _ => cases hy
  | _ => cases hx

end Binary64

namespace Duration

variable {n : ℕ}

/-- The units of the seconds, times a thousand, are those of the milliseconds up to one part in
`2 ^ 53`. -/
lemma thousand_mul_ratioUnits (hpos : 0 < n) :
    2 ^ 53 * (1000 * Binary64.ratioUnits (1000 * n) 1000000) ≤
        (2 ^ 53 + 1) * (n * Binary64.unitsOfOne) ∧
      2 ^ 53 * (n * Binary64.unitsOfOne) ≤
        2 ^ 53 * (1000 * Binary64.ratioUnits (1000 * n) 1000000) + n * Binary64.unitsOfOne := by
  have hone : 2 ^ 52 * 1000 ≤ n * Binary64.unitsOfOne :=
    Binary64.thousand_steps_le_unitsOfOne.trans (Nat.le_mul_of_pos_left _ hpos)
  have hlarge : 2 ^ 52 * 1000000 ≤ 1000 * n * Binary64.unitsOfOne := by
    rw [Nat.mul_assoc]
    omega
  obtain ⟨hbelow, habove⟩ := Binary64.ratioUnits_near (by norm_num) hlarge
  rw [Nat.mul_assoc 1000 n] at hbelow habove
  constructor <;> omega

/-- The product of two doubles, the first of them near to whole milliseconds, is rounded to these
milliseconds. -/
lemma nearest_product {units : ℕ} (hpos : 0 < n) (hsmall : n ≤ 2 ^ 50)
    (hbelow : 2 ^ 53 * (1000 * units) ≤ (2 ^ 53 + 1) * (n * Binary64.unitsOfOne))
    (habove : 2 ^ 53 * (n * Binary64.unitsOfOne) ≤
      2 ^ 53 * (1000 * units) + n * Binary64.unitsOfOne) :
    Rounding.nearest (Binary64.ratioUnits (units * (1000 * Binary64.unitsOfOne))
      (Binary64.unitsOfOne * Binary64.unitsOfOne)) Binary64.unitsOfOne = n := by
  have hone := Binary64.thousand_steps_le_unitsOfOne
  have hsteps : Binary64.unitsOfOne ≤ n * Binary64.unitsOfOne := Nat.le_mul_of_pos_left _ hpos
  have hlimit : n * Binary64.unitsOfOne ≤ 2 ^ 50 * Binary64.unitsOfOne :=
    Nat.mul_le_mul_right _ hsmall
  have hsquare : 0 < Binary64.unitsOfOne * Binary64.unitsOfOne :=
    Nat.mul_pos Binary64.unitsOfOne_pos Binary64.unitsOfOne_pos
  have hnum : units * (1000 * Binary64.unitsOfOne) * Binary64.unitsOfOne =
      1000 * units * (Binary64.unitsOfOne * Binary64.unitsOfOne) := by
    rw [← Nat.mul_assoc, Nat.mul_comm units, Nat.mul_assoc]
  have hlarge : 2 ^ 52 * (Binary64.unitsOfOne * Binary64.unitsOfOne) ≤
      units * (1000 * Binary64.unitsOfOne) * Binary64.unitsOfOne := by
    rw [hnum]
    exact Nat.mul_le_mul_right _ (by omega)
  obtain ⟨hproductBelow, hproductAbove⟩ := Binary64.ratioUnits_near hsquare hlarge
  rw [hnum] at hproductBelow hproductAbove
  -- each rounding moves the value by less than half a millisecond
  generalize Binary64.ratioUnits _ _ = product at hproductBelow hproductAbove ⊢
  generalize Binary64.unitsOfOne * Binary64.unitsOfOne = square
    at hsquare hproductBelow hproductAbove
  have hupper : 2 ^ 53 * product ≤ (2 ^ 53 + 1) * (1000 * units) :=
    Nat.le_of_mul_le_mul_right (by linarith) hsquare
  have hlower : 2 ^ 53 * (1000 * units) ≤ 2 ^ 53 * product + 1000 * units :=
    Nat.le_of_mul_le_mul_right (by linarith) hsquare
  exact Rounding.nearest_eq Binary64.unitsOfOne_pos (by omega) (by omega) (by omega)

/-- A duration of whole milliseconds, not more than `2 ^ 50` of them, has just these. -/
theorem milliseconds_eq {d : Duration} (hd : d.micros = 1000 * n) (hsmall : n ≤ 2 ^ 50) :
    d.milliseconds = n := by
  rcases Nat.eq_zero_or_pos n with rfl | hpos
  · obtain rfl : d = ⟨0⟩ := congrArg Duration.mk hd
    decide +kernel
  obtain ⟨hbelow, habove⟩ := thousand_mul_ratioUnits hpos
  -- the seconds are rounded once, their product with a thousand once more
  have hseconds : d.seconds.units? = some (false, Binary64.ratioUnits (1000 * n) 1000000) := by
    have hnum : d.micros.natAbs = 1000 * n := by omega
    have hscale : Binary64.ratioScale (1000 * n) 1000000 ≤ Binary64.unitScale :=
      Binary64.ratioScale_le (by norm_num) (by omega)
    rw [seconds, Binary64.ofQuotient, decide_eq_false (by omega : ¬ d.micros < 0), hnum,
      Binary64.units?_ofRatio false _ (by norm_num) (lt_of_le_of_lt hscale (by decide)),
      Binary64.ratioUnits]
  have hthousand := Binary64.units?_ofInt (n := 1000) (by norm_num)
  rw [Nat.cast_ofNat] at hthousand
  have hround := nearest_product hpos hsmall hbelow habove
  rw [milliseconds, Binary64.mul_eq_ofRatio hseconds hthousand]
  generalize Binary64.ratioUnits (1000 * n) 1000000 = units at hbelow hround ⊢
  -- the product is so small that its scale is not above that of the units
  have hsquare : 0 < Binary64.unitsOfOne * Binary64.unitsOfOne :=
    Nat.mul_pos Binary64.unitsOfOne_pos Binary64.unitsOfOne_pos
  have hproduct {one : ℕ} (hone : 0 < one) (hnear : 1000 * units < 2 ^ 53 * one) :
      units * (1000 * one) < 2 ^ 53 * (one * one) := by
    calc units * (1000 * one) = 1000 * units * one := by ring
      _ < 2 ^ 53 * one * one := Nat.mul_lt_mul_of_pos_right hnear hone
      _ = 2 ^ 53 * (one * one) := Nat.mul_assoc _ _ _
  have hlimit : n * Binary64.unitsOfOne ≤ 2 ^ 50 * Binary64.unitsOfOne :=
    Nat.mul_le_mul_right _ hsmall
  have hscale := Binary64.ratioScale_le hsquare (hproduct Binary64.unitsOfOne_pos (by
    have := Binary64.unitsOfOne_pos
    omega))
  have hunits := Binary64.units?_ofRatio (false != false) (units * (1000 * Binary64.unitsOfOne))
    hsquare (lt_of_le_of_lt hscale (by decide))
  rw [Binary64.roundToInt?, Binary64.signedUnits?, hunits, ← Binary64.ratioUnits, Option.map_some,
    Option.map_some, Option.getD_some, Binary64.nearestInt_signed _ _ Binary64.unitsOfOne_pos,
    hround]
  rfl

end Duration

end RuleFixtures
