import RuleFixtures.Proofs.Number.Sum
import RuleFixtures.Proofs.Time.Milliseconds

/-!
Whole numbers among the doubles.

Below `2 ^ 53` each natural is a double, and arithmetic on them is exact as long as it stays there.

* `Binary64.eq_of_units?`: a double is known by its sign and its magnitude.
* `Binary64.add_ofInt`, `Binary64.sub_ofInt` and `Binary64.mul_ofInt` are exact.
* `Binary64.floorDiv_eq`: a quotient rounded down is the one of the exact magnitude, for the
  remainder of a double is a double.
-/

namespace RuleFixtures.Binary64

variable {x y : Binary64}

/-! ### Sign and magnitude -/

lemma exists_eq_finite {negative : Bool} {units : ℕ} (h : x.units? = some (negative, units)) :
    ∃ mantissa scale, ∃ canonical : Canonical mantissa scale,
      x = .finite negative mantissa scale canonical ∧ mantissa * 2 ^ scale = units := by
  cases x with
  | finite negative' mantissa scale canonical =>
    cases h
    exact ⟨mantissa, scale, canonical, rfl, rfl⟩
  | _ => cases h

/-- A double is known by its sign and its magnitude. -/
theorem eq_of_units? {negative : Bool} {units : ℕ} (hx : x.units? = some (negative, units))
    (hy : y.units? = some (negative, units)) : x = y := by
  obtain ⟨m, e, canonical, rfl, hm⟩ := exists_eq_finite hx
  obtain ⟨n, f, canonical', rfl, hn⟩ := exists_eq_finite hy
  have hzero (k scale : ℕ) : k * 2 ^ scale = 0 ↔ k = 0 := by simp
  by_cases hunits : units = 0
  · obtain rfl : m = 0 := (hzero m e).1 (hm.trans hunits)
    obtain rfl : n = 0 := (hzero n f).1 (hn.trans hunits)
    obtain rfl := canonical.scale_eq_zero
    obtain rfl := canonical'.scale_eq_zero
    rfl
  · rw [← ofRatio_units negative canonical (by rintro rfl; exact hunits (by simpa using hm.symm)),
      ← ofRatio_units negative canonical' (by rintro rfl; exact hunits (by simpa using hn.symm)),
      hm, hn]

/-- A few steps of a scale are a double. -/
lemma units?_ofRatio_steps (negative : Bool) {steps scale : ℕ} (hsteps : steps < 2 ^ 53)
    (hscale : scale < 2045) :
    (ofRatio negative (steps * 2 ^ scale) unitsOfOne).units? =
      some (negative, steps * 2 ^ scale) := by
  -- they are rounded at a finer scale, or at the same one
  have hfine : ratioScale (steps * 2 ^ scale) unitsOfOne ≤ scale := by
    rw [ratioScale, Nat.mul_div_cancel _ unitsOfOne_pos]
    by_cases hzero : steps * 2 ^ scale = 0
    · rw [hzero, Nat.log2_zero]
      omega
    · have hlog := (Nat.log2_lt (k := 53 + scale) hzero).2 (by
        rw [pow_add]
        exact Nat.mul_lt_mul_of_pos_right hsteps (by positivity))
      omega
  have hlt : ratioScale (steps * 2 ^ scale) unitsOfOne < 2045 := lt_of_le_of_lt hfine hscale
  rw [units?_ofRatio negative _ unitsOfOne_pos hlt]
  obtain ⟨more, hmore⟩ := Nat.exists_eq_add_of_le hfine
  generalize ratioScale (steps * 2 ^ scale) unitsOfOne = fine at hmore ⊢
  have hunits : steps * 2 ^ scale = steps * 2 ^ more * 2 ^ fine := by
    rw [hmore, pow_add]
    ring
  have hexact : steps * 2 ^ scale * unitsOfOne =
      steps * 2 ^ more * (unitsOfOne * 2 ^ fine) := by
    rw [hunits]
    ring
  rw [hexact, Rounding.nearest_mul_right _ (Nat.mul_pos unitsOfOne_pos (by positivity)), ← hunits]

/-! ### Whole numbers -/

section Whole

variable {m n : ℕ}

/-- A quotient without remainder is a whole number. -/
lemma ofRatio_mul_eq_ofInt {den : ℕ} (hden : 0 < den) (hn : n < 2 ^ 53) :
    ofRatio false (n * den) den = ofInt n :=
  eq_of_units? (units?_ofRatio_mul false hden hn) (units?_ofInt hn)

lemma ofUnits_mul (hn : n < 2 ^ 53) : ofUnits false ((n * unitsOfOne : ℕ) : ℤ) 1 = ofInt n := by
  rw [ofUnits]
  split
  · next hzero =>
    rcases Nat.eq_zero_or_pos n with rfl | hpos
    · have hunits : (ofInt 0).units? = some (false, 0) := by
        simpa using units?_ofInt (n := 0) (by norm_num)
      exact eq_of_units? rfl hunits
    · have := Nat.mul_pos hpos unitsOfOne_pos
      omega
  · rw [decide_eq_false (by omega), Int.natAbs_natCast, Nat.one_mul,
      ofRatio_mul_eq_ofInt unitsOfOne_pos hn]

lemma add_eq_ofUnits {s t : Bool} {a b : ℕ} (hx : x.units? = some (s, a))
    (hy : y.units? = some (t, b)) : x.add y = ofUnits (s && t) (signed s a + signed t b) 1 := by
  obtain ⟨_, _, _, rfl, rfl⟩ := exists_eq_finite hx
  obtain ⟨_, _, _, rfl, rfl⟩ := exists_eq_finite hy
  rfl

lemma units?_neg {negative : Bool} {units : ℕ} (h : x.units? = some (negative, units)) :
    x.neg.units? = some (!negative, units) := by
  obtain ⟨_, _, _, rfl, rfl⟩ := exists_eq_finite h
  rfl

/-- The difference of two magnitudes is rounded once. -/
lemma sub_eq_ofUnits {a b : ℕ} (hx : x.units? = some (false, a)) (hy : y.units? = some (false, b))
    (h : b ≤ a) : x.sub y = ofUnits false ((a - b : ℕ) : ℤ) 1 := by
  rw [sub, add_eq_ofUnits hx (units?_neg hy)]
  simp only [signed, Bool.not_false, Bool.and_true, Bool.false_eq_true, if_false, if_true]
  congr 1
  omega

theorem add_ofInt (h : m + n < 2 ^ 53) : (ofInt m).add (ofInt n) = ofInt ((m + n : ℕ) : ℤ) := by
  rw [add_eq_ofUnits (units?_ofInt (by omega : m < 2 ^ 53)) (units?_ofInt (by omega : n < 2 ^ 53)),
    ← ofUnits_mul h]
  simp only [signed, Bool.and_false, Bool.false_eq_true, if_false]
  rw [Nat.add_mul, Nat.cast_add]

theorem sub_ofInt (hm : m < 2 ^ 53) (h : n ≤ m) :
    (ofInt m).sub (ofInt n) = ofInt ((m - n : ℕ) : ℤ) := by
  rw [sub_eq_ofUnits (units?_ofInt hm) (units?_ofInt (by omega : n < 2 ^ 53))
    (Nat.mul_le_mul_right _ h), ← Nat.sub_mul, ofUnits_mul (by omega)]

theorem mul_ofInt (hm : m < 2 ^ 53) (hn : n < 2 ^ 53) (h : m * n < 2 ^ 53) :
    (ofInt m).mul (ofInt n) = ofInt ((m * n : ℕ) : ℤ) := by
  have hsquare : 0 < unitsOfOne * unitsOfOne := Nat.mul_pos unitsOfOne_pos unitsOfOne_pos
  have hunits : m * unitsOfOne * (n * unitsOfOne) = m * n * (unitsOfOne * unitsOfOne) := by ring
  rw [mul_eq_ofRatio (units?_ofInt hm) (units?_ofInt hn), hunits, bne_self_eq_false,
    ofRatio_mul_eq_ofInt hsquare h]

lemma isNaN_ofInt (hn : n < 2 ^ 53) : (ofInt n).isNaN = false := by
  obtain ⟨_, _, _, h, -⟩ := exists_eq_finite (units?_ofInt hn)
  rw [h]
  rfl

lemma rank_ofInt (hn : n < 2 ^ 53) : (ofInt n).rank = (n * unitsOfOne : ℕ) := by
  obtain ⟨_, _, _, h, hunits⟩ := exists_eq_finite (units?_ofInt hn)
  rw [h, rank, ← hunits]
  rfl

/-- Whole numbers compare as naturals do. -/
theorem le_ofInt_iff (hm : m < 2 ^ 53) (hn : n < 2 ^ 53) :
    (ofInt m).le (ofInt n) = true ↔ m ≤ n := by
  rw [le_iff_rank_le (isNaN_ofInt hm) (isNaN_ofInt hn), rank_ofInt hm, rank_ofInt hn, Int.ofNat_le,
    Nat.mul_le_mul_right_iff unitsOfOne_pos]

lemma truncate?_ofInt (hn : n < 2 ^ 53) : (ofInt n).truncate? = some (n : ℤ) := by
  rw [truncate?, units?_ofInt hn, Option.map_some]
  simp only [Bool.false_eq_true, if_false]
  rw [Nat.mul_div_cancel _ unitsOfOne_pos]

end Whole

/-! ### Quotients rounded down -/

/-- The remainder of a double is a double. -/
lemma units?_remainder {units d : ℕ} (hx : x.units? = some (false, units))
    (hlimit : units < 2 ^ 53 * unitsOfOne) :
    ∃ rest, x.remainder? d = some rest ∧
      rest.units? = some (false, units % (unitsOfOne * d)) := by
  obtain ⟨mantissa, scale, canonical, rfl, rfl⟩ := exists_eq_finite hx
  have hscale : scale ≤ unitScale := by
    rcases canonical.2.2 with rfl | hfull
    · exact Nat.zero_le _
    · have hlt : 2 ^ (52 + scale) < 2 ^ (53 + unitScale) := by
        rw [pow_add, pow_add, ← unitsOfOne_eq]
        exact (Nat.mul_le_mul_right _ hfull).trans_lt hlimit
      have := (Nat.pow_lt_pow_iff_right (by norm_num : 1 < 2)).1 hlt
      omega
  refine ⟨_, rfl, ?_⟩
  change (ofRatio false (mantissa * 2 ^ scale % (unitsOfOne * d)) unitsOfOne).units? = _
  obtain ⟨steps, hsteps⟩ : 2 ^ scale ∣ mantissa * 2 ^ scale % (unitsOfOne * d) :=
    (Nat.dvd_mod_iff ((two_pow_dvd_unitsOfOne hscale).mul_right d)).2 (Dvd.intro_left _ rfl)
  have hle := Nat.mod_le (mantissa * 2 ^ scale) (unitsOfOne * d)
  rw [hsteps, Nat.mul_comm] at hle ⊢
  refine units?_ofRatio_steps false ?_ (lt_of_le_of_lt hscale (by decide))
  exact (Nat.le_of_mul_le_mul_right hle (by positivity)).trans_lt canonical.1

lemma divNat_eq_ofRatio {negative : Bool} {units : ℕ} (hx : x.units? = some (negative, units))
    (d : ℕ) : x.divNat d = ofRatio negative units (unitsOfOne * d) := by
  obtain ⟨_, _, _, rfl, rfl⟩ := exists_eq_finite hx
  rfl

lemma nearestDown_ofInt {n : ℕ} (hn : n < 2 ^ 53) : (ofInt n).nearestDown = ofInt n := by
  have hpos : (0 : ℤ) < unitsOfOne := Int.ofNat_lt.2 unitsOfOne_pos
  have hwhole : Int.fdiv ((n * unitsOfOne : ℕ) : ℤ) unitsOfOne = n := by
    rw [Int.fdiv_eq_ediv_of_nonneg _ hpos.le, Nat.cast_mul, Int.mul_ediv_cancel _ hpos.ne']
  rw [nearestDown, signedUnits?, units?_ofInt hn, Option.map_some]
  simp only [signed, Bool.false_eq_true, if_false, hwhole]
  rw [Nat.cast_mul, Int.sub_self, if_neg (by omega : ¬ (unitsOfOne : ℤ) < 2 * 0), ite_self]

/-- A quotient rounded down is that of the exact magnitude. -/
theorem floorDiv_eq {units d : ℕ} (hx : x.units? = some (false, units)) (hd : 0 < d)
    (hlimit : units < 2 ^ 53 * unitsOfOne) :
    x.floorDiv d = ofInt ((units / (unitsOfOne * d) : ℕ) : ℤ) := by
  obtain ⟨rest, hrest, hunits⟩ := units?_remainder (d := d) hx hlimit
  have hdiv := Nat.div_add_mod units (unitsOfOne * d)
  have hle := Nat.mod_le units (unitsOfOne * d)
  -- what is left without the remainder is a whole number
  have hquotient : units / (unitsOfOne * d) * d < 2 ^ 53 := by
    refine Nat.lt_of_mul_lt_mul_right (a := unitsOfOne) (lt_of_le_of_lt ?_ hlimit)
    calc units / (unitsOfOne * d) * d * unitsOfOne
        = unitsOfOne * d * (units / (unitsOfOne * d)) := by ring
      _ ≤ units := Nat.mul_div_le _ _
  generalize units / (unitsOfOne * d) = quotient at hdiv hquotient ⊢
  have hsmall : quotient < 2 ^ 53 := (Nat.le_mul_of_pos_right _ hd).trans_lt hquotient
  -- both the difference and its quotient are exact, so nothing is rounded
  have hwhole : x.sub rest = ofInt ((quotient * d : ℕ) : ℤ) := by
    have hrest : units - units % (unitsOfOne * d) = quotient * d * unitsOfOne := by
      rw [Nat.sub_eq_of_eq_add hdiv.symm]
      ring
    rw [sub_eq_ofUnits hx hunits hle, hrest, ofUnits_mul hquotient]
  have hdivided : (x.sub rest).divNat d = ofInt quotient := by
    have hexact : quotient * d * unitsOfOne = quotient * (unitsOfOne * d) := by ring
    rw [hwhole, divNat_eq_ofRatio (units?_ofInt hquotient), hexact,
      ofRatio_mul_eq_ofInt (Nat.mul_pos unitsOfOne_pos hd) hsmall]
  have hpositive : x.isNegative = false := by
    obtain ⟨_, _, _, rfl, -⟩ := exists_eq_finite hx
    rfl
  rw [floorDiv, hrest]
  simp only [hdivided, hpositive, Bool.and_false, Bool.false_eq_true, if_false]
  split
  · next hzero =>
    obtain ⟨_, _, canonical, hfinite, hquotient⟩ := exists_eq_finite (units?_ofInt hsmall)
    rw [hfinite] at hzero ⊢
    obtain rfl := of_decide_eq_true hzero
    obtain rfl := canonical.scale_eq_zero
    rfl
  · exact nearestDown_ofInt hsmall

end RuleFixtures.Binary64
