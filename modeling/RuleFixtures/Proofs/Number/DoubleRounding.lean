import Mathlib.Tactic
import RuleFixtures.Proofs.Number.Decimal

/-!
Rounding a quotient to a double, and the double to an integer.

The quotient is rounded twice. The first rounding could carry it to the middle between two whole
numbers, and the second one to the wrong side. For numerators below `2 ^ 52` it does not: the
doubles around the quotient are then closer to each other than the quotient is to a middle it does
not meet.

* `Rounding.nearest_eq` is what a nearest integer is known by.
* `Rounding.nearest_nearest`: on a fine enough grid, rounding to the grid first does not matter.
* `Rounding.IsNearest` says in the integers which one is nearest to a quotient, and
  `Rounding.nearestInt_eq_iff` that it is the rounded one.
* `Binary64.roundToInt?_ofIntRatio`: the rounded double is the integer nearest to the quotient.
-/

namespace RuleFixtures

namespace Rounding

/-- A quotient more than a half above a whole number is rounded to a greater one. -/
lemma lt_nearest {num den k : ℕ} (hden : 0 < den) (h : 2 * (k * den) + den < 2 * num) :
    k < nearest num den := by
  have hclose := (nearest_close num hden).2
  by_contra hle
  have hmul : nearest num den * den ≤ k * den := Nat.mul_le_mul_right den (by omega)
  omega

/-- A whole number within a half of the quotient is the nearest one if it is even on a tie. -/
lemma nearest_eq {num den k : ℕ} (hden : 0 < den) (hlow : 2 * (k * den) ≤ 2 * num + den)
    (hhigh : 2 * num ≤ 2 * (k * den) + den)
    (htie : 2 * (k * den) = 2 * num + den ∨ 2 * num = 2 * (k * den) + den → k % 2 = 0) :
    nearest num den = k := by
  have hdiv : num / den * den + num % den = num := Nat.div_add_mod' num den
  have hmod : num % den < den := Nat.mod_lt num hden
  -- the whole number is the quotient or the next one
  have hcases : k = num / den ∨ k = num / den + 1 := by
    have hle : num / den < k + 1 := by
      refine (Nat.div_lt_iff_lt_mul hden).2 ?_
      rw [Nat.add_mul]
      omega
    have hge : k < num / den + 2 := by
      refine Nat.lt_of_mul_lt_mul_right (a := den) ?_
      rw [Nat.add_mul]
      omega
    omega
  rw [nearest]
  rcases hcases with rfl | rfl
  · split_ifs <;> omega
  · rw [Nat.add_mul, Nat.one_mul] at hlow hhigh htie
    split_ifs <;> omega

/-- On a tie the nearest integer is even. -/
lemma nearest_even (num : ℕ) {den : ℕ} (hden : 0 < den)
    (htie : 2 * (nearest num den * den) = 2 * num + den ∨
      2 * num = 2 * (nearest num den * den) + den) : nearest num den % 2 = 0 := by
  refine nearest_even_of_tie ?_
  have hdiv : num / den * den + num % den = num := Nat.div_add_mod' num den
  have hmod : num % den < den := Nat.mod_lt num hden
  have hcases : nearest num den = num / den ∨ nearest num den = num / den + 1 := by
    rw [nearest]
    split_ifs <;> simp
  rcases hcases with hnearest | hnearest
  · rw [hnearest] at htie
    omega
  · rw [hnearest, Nat.add_mul, Nat.one_mul] at htie
    omega

section Grid

variable {num den half : ℕ}

/-- A middle above the quotient is more than half a part of the grid above it. -/
lemma add_lt_middle (hgrid : den < 2 * half) {middle : ℕ} (h : 2 * num < middle * den) :
    2 * (num * (2 * half)) + den < 2 * (middle * half * den) := by
  obtain ⟨gap, hmiddle⟩ := Nat.exists_eq_add_of_lt h
  have hparts : 2 * half ≤ (gap + 1) * (2 * half) := Nat.le_mul_of_pos_left _ (by omega)
  calc 2 * (num * (2 * half)) + den
      < 2 * (num * (2 * half)) + (gap + 1) * (2 * half) := by omega
    _ = (2 * num + gap + 1) * (2 * half) := by ring
    _ = 2 * (middle * half * den) := by rw [← hmiddle]; ring

/-- A middle below the quotient is more than half a part of the grid below it. -/
lemma middle_add_lt (hgrid : den < 2 * half) {middle : ℕ} (h : middle * den < 2 * num) :
    2 * (middle * half * den) + den < 2 * (num * (2 * half)) := by
  obtain ⟨gap, hnum⟩ := Nat.exists_eq_add_of_lt h
  have hparts : 2 * half ≤ (gap + 1) * (2 * half) := Nat.le_mul_of_pos_left _ (by omega)
  calc 2 * (middle * half * den) + den
      < 2 * (middle * half * den) + (gap + 1) * (2 * half) := by omega
    _ = (middle * den + gap + 1) * (2 * half) := by ring
    _ = 2 * (num * (2 * half)) := by rw [← hnum]; ring

/-- On the grid the quotient is not past the middle above its nearest integer. -/
lemma nearest_mul_le (hden : 0 < den) :
    nearest (num * (2 * half)) den ≤ (2 * nearest num den + 1) * half := by
  obtain ⟨hbelow, habove⟩ := nearest_close num hden
  have hupper : (2 * nearest num den + 1) * den = 2 * (nearest num den * den) + den := by ring
  refine nearest_le hden ?_
  calc num * (2 * half) = 2 * num * half := by ring
    _ ≤ (2 * nearest num den + 1) * den * half := Nat.mul_le_mul_right half (by omega)
    _ = (2 * nearest num den + 1) * half * den := by ring

/-- Nor is it in front of the middle below that integer. -/
lemma le_nearest_mul (hden : 0 < den) {j : ℕ} (hj : nearest num den = j + 1) :
    (2 * j + 1) * half ≤ nearest (num * (2 * half)) den := by
  obtain ⟨hbelow, habove⟩ := nearest_close num hden
  rw [hj] at hbelow habove
  have hlower : (2 * j + 1) * den + 2 * den = 2 * ((j + 1) * den) + den := by ring
  refine le_nearest hden ?_
  calc (2 * j + 1) * half * den = (2 * j + 1) * den * half := by ring
    _ ≤ 2 * num * half := Nat.mul_le_mul_right half (by omega)
    _ = num * (2 * half) := by ring

/-- A quotient that is rounded to a grid of an even number of parts of one, more than its
denominator, is then rounded to the same integer as before. -/
theorem nearest_nearest (hden : 0 < den) (hgrid : den < 2 * half) :
    nearest (nearest (num * (2 * half)) den) (2 * half) = nearest num den := by
  obtain ⟨hbelow, habove⟩ := nearest_close num hden
  have heven := nearest_even num hden
  have hlow (j : ℕ) (hj : nearest num den = j + 1) :
      (2 * j + 1) * half ≤ nearest (num * (2 * half)) den := le_nearest_mul hden hj
  have hhigh : nearest (num * (2 * half)) den ≤ (2 * nearest num den + 1) * half :=
    nearest_mul_le hden
  have hupper : (2 * nearest num den + 1) * den = 2 * (nearest num den * den) + den := by ring
  have hupperGrid : (2 * nearest num den + 1) * half = nearest num den * (2 * half) + half := by
    ring
  -- what is needed of the middle below the nearest integer, which zero does not have
  have hlowerGrid (j : ℕ) : (2 * j + 1) * half + half = (j + 1) * (2 * half) := by ring
  have hlower (j : ℕ) : (2 * j + 1) * den + 2 * den = 2 * ((j + 1) * den) + den := by ring
  generalize nearest num den = k at *
  refine nearest_eq (by omega) ?_ (by omega) ?_
  case refine_1 =>
    cases k with
    | zero => omega
    | succ j =>
      have hmiddle := hlow j rfl
      have hparts := hlowerGrid j
      omega
  case refine_2 =>
    -- in a tie the even neighbour is taken, so it has to be a tie before the grid as well
    rintro (htie | htie)
    · cases k with
      | zero => rfl
      | succ j =>
        have hmiddle := hlower j
        have hparts := hlowerGrid j
        refine heven (.inl ?_)
        by_contra hne
        have hlt := lt_nearest hden
          (middle_add_lt hgrid (show (2 * j + 1) * den < 2 * num by omega))
        omega
    · refine heven (.inr ?_)
      by_contra hne
      have hlt := nearest_lt hden
        (add_lt_middle hgrid (show 2 * num < (2 * k + 1) * den by omega))
      omega

end Grid

/-! ### The nearest integer -/

/-- The integer is at most a half away from the quotient, and even if it is just a half. -/
def IsNearest (num den k : ℤ) : Prop :=
  2 * |num - k * den| ≤ den ∧ (2 * |num - k * den| = den → k % 2 = 0)

instance (num den k : ℤ) : Decidable (IsNearest num den k) := by
  unfold IsNearest; infer_instance

/-- A quotient is rounded to its nearest integer. -/
lemma isNearest_nearestInt (num : ℤ) {den : ℕ} (hden : 0 < den) :
    IsNearest num den (nearestInt num den) := by
  obtain ⟨hbelow, habove⟩ := nearest_close num.natAbs hden
  have heven := nearest_even num.natAbs hden
  -- the sign is put back after rounding, which changes neither the distance nor the parity
  have hdistance : |num - nearestInt num den * den| =
      |(num.natAbs : ℤ) - (nearest num.natAbs den * den : ℕ)| := by
    rw [nearestInt]
    split
    · next hneg =>
      rw [← abs_neg]
      congr 1
      push_cast
      rw [abs_of_neg hneg]
      ring
    · next hpos =>
      congr 1
      push_cast
      rw [abs_of_nonneg (not_lt.1 hpos)]
  have hparity : nearestInt num den % 2 = 0 ↔ nearest num.natAbs den % 2 = 0 := by
    rw [nearestInt]
    split <;> omega
  have hsign := abs_cases ((num.natAbs : ℤ) - (nearest num.natAbs den * den : ℕ))
  rw [IsNearest, hdistance, hparity]
  constructor
  · omega
  · intro htie
    apply heven
    omega

/-- There is one nearest integer only. -/
lemma IsNearest.unique {num den k l : ℤ} (hden : 0 < den) (hk : IsNearest num den k)
    (hl : IsNearest num den l) : k = l := by
  wlog hle : k ≤ l generalizing k l
  · exact (this hl hk (by omega)).symm
  obtain ⟨hk, hkeven⟩ := hk
  obtain ⟨hl, hleven⟩ := hl
  by_contra hne
  have hnext : (k + 1) * den ≤ l * den := by
    gcongr
    omega
  have hdistance := le_abs_self (num - k * den)
  have hdistance' := neg_abs_le (num - l * den)
  have hprevious : l ≤ k + 1 := by
    have hmul : l * den ≤ (k + 1) * den := by linarith
    exact le_of_mul_le_mul_right hmul hden
  -- both would be just a half away, and even
  rw [add_mul, one_mul] at hnext
  have hkparity := hkeven (by omega)
  have hlparity := hleven (by omega)
  omega

lemma nearestInt_eq_iff {num k : ℤ} {den : ℕ} (hden : 0 < den) :
    nearestInt num den = k ↔ IsNearest num den k := by
  have hnearest := isNearest_nearestInt num hden
  constructor
  · rintro rfl
    exact hnearest
  · exact hnearest.unique (by omega)

end Rounding

namespace Binary64

/-- Below the scale of one, one is an even number of steps. -/
lemma exists_half_unitsOfOne {scale : ℕ} (h : scale < unitScale) :
    ∃ half, unitsOfOne = 2 ^ scale * (2 * half) := by
  refine ⟨2 ^ (unitScale - scale - 1), ?_⟩
  rw [unitsOfOne_eq, ← pow_succ', ← pow_add]
  congr 1
  omega

/-- The double of a quotient of a numerator below `2 ^ 52` has a scale up to that of one. -/
lemma ratioScale_le_of_lt {num den : ℕ} (hden : 0 < den) (hnum : num < 2 ^ 52) :
    ratioScale num den ≤ unitScale :=
  ratioScale_le hden (lt_of_lt_of_le (by omega) (Nat.le_mul_of_pos_right _ hden))

/-- The steps of the double of a quotient are finer than the parts of its denominator if the
numerator is below `2 ^ 52`, unless the quotient is far below one. -/
lemma den_lt_of_ratioScale {num den step : ℕ} (hden : 0 < den) (hnum : num < 2 ^ 52)
    (hstep : unitsOfOne = 2 ^ ratioScale num den * step) (hsmall : den < unitsOfOne) :
    den < step := by
  rcases (ratioScale_bounds num den).1 with hzero | hle
  · rw [hzero, pow_zero, Nat.one_mul] at hstep
    exact lt_of_lt_of_eq hsmall hstep
  · have hmul := (Nat.le_div_iff_mul_le hden).1 hle
    rw [hstep] at hmul
    by_contra hge
    have hpos : 0 < 2 ^ ratioScale num den := by positivity
    refine absurd hmul (not_le.2 ?_)
    calc num * (2 ^ ratioScale num den * step)
        ≤ num * (2 ^ ratioScale num den * den) := by gcongr; omega
      _ < 2 ^ 52 * (2 ^ ratioScale num den * den) :=
        Nat.mul_lt_mul_of_pos_right hnum (Nat.mul_pos hpos hden)
      _ = 2 ^ 52 * 2 ^ ratioScale num den * den := by ring

/-- A quotient far below one is rounded to zero. -/
lemma nearest_eq_zero {num den : ℕ} (hden : 0 < den) (h : 2 * num < den) :
    Rounding.nearest num den = 0 :=
  Nat.lt_one_iff.1 (Rounding.nearest_lt hden (by omega))

/-- Rounding is odd in the numerator. -/
lemma nearestInt_signed (negative : Bool) (num : ℕ) {den : ℕ} (hden : 0 < den) :
    Rounding.nearestInt (signed negative num) den =
      signed negative (Rounding.nearest num den) := by
  cases negative with
  | false => simp [signed, Rounding.nearestInt]
  | true =>
    rcases Nat.eq_zero_or_pos num with rfl | hpos
    · have hzero : Rounding.nearest 0 den = 0 := nearest_eq_zero hden (by omega)
      simp [signed, Rounding.nearestInt, hzero]
    · simp [signed, Rounding.nearestInt, hpos]

/-- The double nearest to a quotient, in units, is rounded to the integer nearest to the
quotient. -/
lemma nearest_ratio {num den : ℕ} (hden : 0 < den) (hnum : num < 2 ^ 52) :
    Rounding.nearest (Rounding.nearest (num * unitsOfOne) (den * 2 ^ ratioScale num den) *
      2 ^ ratioScale num den) unitsOfOne = Rounding.nearest num den := by
  have hone := two_pow_le_unitsOfOne
  have hpos : 0 < 2 ^ ratioScale num den := by positivity
  rcases Nat.lt_or_ge den unitsOfOne with hsmall | hlarge
  -- one consists of an even number of parts of the grid, which are more than the denominator
  · have hbelow : ratioScale num den < unitScale := by
      refine lt_of_le_of_ne (ratioScale_le_of_lt hden hnum) ?_
      intro hfull
      have hone : unitsOfOne = 2 ^ ratioScale num den * 1 := by
        rw [hfull, Nat.mul_one, unitsOfOne_eq]
      have := den_lt_of_ratioScale hden hnum hone hsmall
      omega
    obtain ⟨half, hhalf⟩ := exists_half_unitsOfOne hbelow
    have hgrid := den_lt_of_ratioScale hden hnum hhalf hsmall
    rw [hhalf, Nat.mul_comm (2 ^ ratioScale num den), ← Nat.mul_assoc,
      Rounding.nearest_mul_mul _ _ hpos, Rounding.nearest_mul_mul _ _ hpos]
    exact Rounding.nearest_nearest hden hgrid
  · -- the quotient and its double are far below one
    have hquotient : num * unitsOfOne / den ≤ num := by
      refine Nat.div_le_of_le_mul ?_
      rw [Nat.mul_comm]
      exact Nat.mul_le_mul_right num hlarge
    have hleast : ratioScale num den = 0 := by
      rcases (ratioScale_bounds num den).1 with hzero | hle
      · exact hzero
      · omega
    have hle : Rounding.nearest (num * unitsOfOne) den ≤ num :=
      Rounding.nearest_le hden (Nat.mul_le_mul_left num hlarge)
    have hzero : Rounding.nearest num den = 0 := nearest_eq_zero hden (by omega)
    rw [hleast, pow_zero, Nat.mul_one, Nat.mul_one, hzero]
    exact nearest_eq_zero unitsOfOne_pos (by omega)

/-- The double of a quotient is rounded to the integer nearest to the quotient. -/
theorem roundToInt?_ofRatio (negative : Bool) {num den : ℕ} (hden : 0 < den)
    (hnum : num < 2 ^ 52) :
    (ofRatio negative num den).roundToInt? =
      some (signed negative (Rounding.nearest num den)) := by
  have hscale := ratioScale_le_of_lt hden hnum
  have hunits := units?_ofRatio negative num hden (lt_of_le_of_lt hscale (by decide))
  have hround := nearest_ratio hden hnum
  generalize Rounding.nearest (num * unitsOfOne) _ * _ = units at hunits hround
  rw [roundToInt?, signedUnits?, hunits, Option.map_some, Option.map_some,
    nearestInt_signed negative units unitsOfOne_pos, hround]

/-- The quotient of two integers is rounded to the integer nearest to it. -/
theorem roundToInt?_ofIntRatio {num : ℤ} {den : ℕ} (hden : 0 < den) (hnum : num.natAbs < 2 ^ 52) :
    (ofIntRatio? num den).bind roundToInt? = some (Rounding.nearestInt num den) := by
  have hne : den ≠ 0 := Nat.ne_of_gt hden
  have hsign : (decide (num < 0) != decide ((den : ℤ) < 0) && num != 0) = decide (num < 0) := by
    have hpos : ¬ (den : ℤ) < 0 := by omega
    rcases lt_trichotomy num 0 with h | rfl | h
    · simp [h, hpos, h.ne]
    · simp
    · simp [hpos, not_lt.2 h.le]
  rw [ofIntRatio?, if_neg (by omega), hsign, Option.bind_some, Int.natAbs_natCast,
    roundToInt?_ofRatio _ hden hnum, Rounding.nearestInt]
  by_cases h : num < 0 <;> simp [signed, h]

end Binary64

end RuleFixtures
