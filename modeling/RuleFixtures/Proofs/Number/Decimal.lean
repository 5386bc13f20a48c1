import RuleFixtures.Number.Shortest
import RuleFixtures.Proofs.Number.Quotient

/-!
Decimals and the doubles nearest to them.

* `ofDecimal_mul_pow`: zeros behind the digits of a decimal count as well in its exponent.
* `ofRatio_units`: the exact value of a double rounds to the double.
* `ofDecimal_shortest`: the decimal that is chosen to write a double reads back to it.
-/

namespace RuleFixtures

namespace Rounding

/-- A quotient in other terms is rounded to the same number. -/
lemma nearest_mul_mul (num den : ℕ) {k : ℕ} (hk : 0 < k) :
    nearest (num * k) (den * k) = nearest num den := by
  have hlt : 2 * (num % den * k) < den * k ↔ 2 * (num % den) < den := by
    rw [← Nat.mul_assoc]
    exact Nat.mul_lt_mul_right hk
  have hgt : den * k < 2 * (num % den * k) ↔ den < 2 * (num % den) := by
    rw [← Nat.mul_assoc]
    exact Nat.mul_lt_mul_right hk
  simp only [nearest, Nat.mul_div_mul_right num den hk, Nat.mul_mod_mul_right, hlt, hgt]

end Rounding

/-- Zero has the least scale. -/
lemma Canonical.scale_eq_zero {scale : ℕ} (h : Canonical 0 scale) : scale = 0 := by
  obtain ⟨-, -, hleast | hleast⟩ := h
  · exact hleast
  · exact absurd hleast (by decide)

namespace Binary64

/-! ### Signs -/

lemma natAbs_signed (negative : Bool) (n : ℕ) : (signed negative n).natAbs = n := by
  cases negative <;> simp [signed]

lemma decide_signed_neg (negative : Bool) {n : ℕ} (hpos : n ≠ 0) :
    decide (signed negative n < 0) = negative := by
  cases negative <;> simp [signed, Nat.pos_of_ne_zero hpos]

lemma signed_mul (negative : Bool) (m n : ℕ) :
    signed negative (m * n) = signed negative m * n := by
  cases negative <;> simp [signed]

/-! ### Quotients -/

/-- A quotient in other terms is the same double. -/
lemma ofRatio_mul_mul (negative : Bool) (num den : ℕ) {k : ℕ} (hk : 0 < k) :
    ofRatio negative (num * k) (den * k) = ofRatio negative num den := by
  have hnum : num * k * unitsOfOne = num * unitsOfOne * k := by ring
  have hden (scale : ℕ) : den * k * Nat.pow 2 scale = den * Nat.pow 2 scale * k := by ring
  simp only [ofRatio, hnum, Nat.mul_div_mul_right _ _ hk, hden, Rounding.nearest_mul_mul _ _ hk]

/-- The scale of a double is the one at which its exact value is rounded. -/
lemma log2_units {mantissa scale : ℕ} (h : Canonical mantissa scale) (hpos : mantissa ≠ 0) :
    Nat.log2 (mantissa * 2 ^ scale) - 52 = scale := by
  obtain ⟨hmantissa, -, rfl | hleast⟩ := h
  · have := (Nat.log2_lt hpos).2 hmantissa
    rw [pow_zero, Nat.mul_one]
    omega
  · have hlog : Nat.log2 (mantissa * 2 ^ scale) = 52 + scale := by
      refine (Nat.log2_eq_iff (Nat.mul_ne_zero hpos (by positivity))).2 ⟨?_, ?_⟩
      · rw [pow_add]
        exact Nat.mul_le_mul_right _ hleast
      · rw [show 52 + scale + 1 = 53 + scale by omega, pow_add]
        exact Nat.mul_lt_mul_of_pos_right hmantissa (by positivity)
    omega

lemma pack_canonical (negative : Bool) {mantissa scale : ℕ} (h : Canonical mantissa scale) :
    pack negative mantissa scale = .finite negative mantissa scale h := by
  rw [pack, if_neg (Nat.ne_of_lt h.1)]
  exact dif_pos h

/-- The sign of a packed number is the one that is given. -/
lemma pack_of_finite {mantissa scale m s : ℕ} {h : Canonical m s} {negative other : Bool}
    (hfinite : pack other mantissa scale = .finite negative m s h) (sign : Bool) :
    pack sign mantissa scale = .finite sign m s h := by
  rw [pack] at hfinite ⊢
  generalize (if mantissa = Nat.pow 2 53 then _ else _ : ℕ × ℕ) = packed at hfinite ⊢
  obtain ⟨m', s'⟩ := packed
  by_cases hcanonical : Canonical m' s'
  · simp only [dif_pos hcanonical] at hfinite ⊢
    cases hfinite
    rfl
  · simp only [dif_neg hcanonical] at hfinite
    cases hfinite

lemma ofRatio_eq (negative : Bool) (num den : ℕ) :
    ofRatio negative num den =
      pack negative (Rounding.nearest (num * unitsOfOne) (den * 2 ^ ratioScale num den))
        (ratioScale num den) := rfl

/-- The exact value of a double rounds to the double. -/
lemma ofRatio_units (negative : Bool) {mantissa scale : ℕ} (h : Canonical mantissa scale)
    (hpos : mantissa ≠ 0) :
    ofRatio negative (mantissa * 2 ^ scale) unitsOfOne = .finite negative mantissa scale h := by
  have hscale : ratioScale (mantissa * 2 ^ scale) unitsOfOne = scale := by
    rw [ratioScale, Nat.mul_div_cancel _ unitsOfOne_pos, log2_units h hpos]
  have hnearest : Rounding.nearest (mantissa * 2 ^ scale * unitsOfOne) (unitsOfOne * 2 ^ scale) =
      mantissa := by
    rw [Nat.mul_assoc, Nat.mul_comm (2 ^ scale)]
    exact Rounding.nearest_mul_right _ (Nat.mul_pos unitsOfOne_pos (by positivity))
  rw [ofRatio_eq, hscale, hnearest, pack_canonical]

lemma mantissa_ne_zero {mantissa scale n : ℕ} (hunits : mantissa * 2 ^ scale = n * unitsOfOne)
    (hpos : n ≠ 0) : mantissa ≠ 0 := by
  rintro rfl
  have := Nat.mul_pos (Nat.pos_of_ne_zero hpos) unitsOfOne_pos
  omega

/-- A whole number that is a double rounds to the double. -/
lemma ofRatio_whole (negative : Bool) {mantissa scale n : ℕ} (h : Canonical mantissa scale)
    (hunits : mantissa * 2 ^ scale = n * unitsOfOne) (hpos : n ≠ 0) :
    ofRatio negative n 1 = .finite negative mantissa scale h := by
  rw [← ofRatio_units negative h (mantissa_ne_zero hunits hpos), hunits,
    ← ofRatio_mul_mul negative n 1 unitsOfOne_pos, Nat.one_mul]

/-- The sign of a quotient is the one that is given. -/
lemma ofRatio_of_finite {num den mantissa scale : ℕ} {h : Canonical mantissa scale}
    {negative other : Bool} (hfinite : ofRatio other num den = .finite negative mantissa scale h)
    (sign : Bool) : ofRatio sign num den = .finite sign mantissa scale h := by
  rw [ofRatio_eq] at hfinite ⊢
  exact pack_of_finite hfinite sign

/-! ### Decimals -/

lemma length_toDigits_mul_ten {digits : ℕ} (hpos : 0 < digits) :
    (Nat.toDigits 10 (digits * 10)).length = (Nat.toDigits 10 digits).length + 1 := by
  have happend := Nat.toDigits_append_toDigits (b := 10) (by norm_num) hpos (by norm_num : 0 < 10)
  rw [Nat.add_zero, Nat.mul_comm] at happend
  rw [← happend, List.length_append, Nat.toDigits_zero, List.length_singleton]

/-- The double nearest to a decimal, of whatever magnitude. -/
def nearestDecimal (negative : Bool) (digits : ℕ) (exponent : ℤ) : Binary64 :=
  if 0 ≤ exponent then ofRatio negative (digits * 10 ^ exponent.toNat) 1
  else ofRatio negative digits (10 ^ (-exponent).toNat)

lemma ofDecimal_eq (negative : Bool) (digits : ℕ) (exponent : ℤ) :
    ofDecimal negative digits exponent =
      if digits = 0 then zero negative
      else if 310 < ((Nat.toDigits 10 digits).length : ℤ) + exponent then .infinite negative
      else if ((Nat.toDigits 10 digits).length : ℤ) + exponent < -330 then zero negative
      else nearestDecimal negative digits exponent := rfl

/-- A whole number in few digits is the double of its quotient by one. -/
lemma ofDecimal_zero (negative : Bool) {n : ℕ} (hpos : n ≠ 0) (hlimit : n < 10 ^ 20) :
    ofDecimal negative n 0 = ofRatio negative n 1 := by
  have hlength := (Nat.length_toDigits_le_iff (by norm_num) (by norm_num)).2 hlimit
  rw [ofDecimal_eq, if_neg hpos, if_neg (by omega), if_neg (by omega), nearestDecimal,
    if_pos le_rfl]
  simp

lemma nearestDecimal_mul_ten (negative : Bool) (digits : ℕ) (exponent : ℤ) :
    nearestDecimal negative (digits * 10) exponent =
      nearestDecimal negative digits (exponent + 1) := by
  rw [nearestDecimal, nearestDecimal]
  rcases lt_trichotomy exponent (-1) with hless | rfl | hmore
  · have hpow : (-exponent).toNat = (-(exponent + 1)).toNat + 1 := by omega
    rw [if_neg (by omega), if_neg (by omega), hpow, pow_succ,
      ofRatio_mul_mul negative digits _ (by norm_num)]
  · have hterms := ofRatio_mul_mul negative digits 1 (by norm_num : 0 < 10)
    simpa using hterms
  · have hpow : (exponent + 1).toNat = exponent.toNat + 1 := by omega
    rw [if_pos (by omega), if_pos (by omega), hpow, pow_succ', Nat.mul_assoc]

/-- A zero behind the digits counts as well in the exponent. -/
lemma ofDecimal_mul_ten (negative : Bool) (digits : ℕ) (exponent : ℤ) :
    ofDecimal negative (digits * 10) exponent = ofDecimal negative digits (exponent + 1) := by
  rcases Nat.eq_zero_or_pos digits with rfl | hpos
  · simp [ofDecimal_eq]
  · have hlength : ((Nat.toDigits 10 (digits * 10)).length : ℤ) + exponent =
        ((Nat.toDigits 10 digits).length : ℤ) + (exponent + 1) := by
      rw [length_toDigits_mul_ten hpos]
      push_cast
      ring
    rw [ofDecimal_eq, ofDecimal_eq, hlength, nearestDecimal_mul_ten,
      if_neg (Nat.ne_of_gt hpos), if_neg (Nat.ne_of_gt (Nat.mul_pos hpos (by norm_num)))]

/-- Zeros behind the digits count as well in the exponent. -/
lemma ofDecimal_mul_pow (negative : Bool) (digits zeros : ℕ) (exponent : ℤ) :
    ofDecimal negative (digits * 10 ^ zeros) exponent =
      ofDecimal negative digits (exponent + zeros) := by
  induction zeros generalizing exponent with
  | zero => simp
  | succ zeros ih =>
    rw [pow_succ, ← Nat.mul_assoc, ofDecimal_mul_ten, ih]
    congr 1
    push_cast
    ring

/-- Moving zeros into the exponent keeps the double. -/
lemma ofDecimal_normalize (negative : Bool) (d : Decimal) :
    ofDecimal negative d.normalize.digits d.normalize.exponent =
      ofDecimal negative d.digits d.exponent := by
  fun_induction Decimal.normalize d with
  | case1 d hzero ih =>
    rw [ih, ← ofDecimal_mul_ten, Nat.div_mul_cancel (Nat.dvd_of_mod_eq_zero hzero.2)]
  | case2 d hdone => rfl

/-- The sign of a decimal is the one that is given. -/
lemma ofDecimal_of_finite {digits mantissa scale : ℕ} {exponent : ℤ}
    {h : Canonical mantissa scale} {negative other : Bool}
    (hfinite : ofDecimal other digits exponent = .finite negative mantissa scale h) (sign : Bool) :
    ofDecimal sign digits exponent = .finite sign mantissa scale h := by
  simp only [ofDecimal_eq, nearestDecimal, zero] at hfinite ⊢
  split_ifs at hfinite ⊢ with hzero hlarge hsmall hwhole
  · cases hfinite
    rfl
  · cases hfinite
    rfl
  · exact ofRatio_of_finite hfinite sign
  · exact ofRatio_of_finite hfinite sign

/-- Without digits a decimal is zero. -/
lemma digits_ne_zero {digits mantissa scale : ℕ} {exponent : ℤ} {h : Canonical mantissa scale}
    {negative other : Bool}
    (hfinite : ofDecimal other digits exponent = .finite negative mantissa scale h)
    (hpos : mantissa ≠ 0) : digits ≠ 0 := by
  rintro rfl
  rw [ofDecimal_eq, if_pos rfl, zero] at hfinite
  cases hfinite
  exact hpos rfl

/-! ### The decimal of a double -/

lemma readsBack_iff {mantissa scale : ℕ} (h : Canonical mantissa scale) (d : Decimal) :
    readsBack mantissa scale d = true ↔
      ofDecimal false d.digits d.exponent = .finite false mantissa scale h := by
  rw [readsBack]
  constructor
  · intro hback
    split at hback
    · next hfinite =>
      obtain ⟨rfl, rfl⟩ : _ ∧ _ := by simpa using hback
      exact ofDecimal_of_finite hfinite false
    · cases hback
  · intro hfinite
    simp [hfinite]

/-- What is taken from a grid reads back. -/
lemma readsBack_of_onGrid? {mantissa scale : ℕ} {grid : ℤ} {d : Decimal}
    (hgrid : onGrid? mantissa scale grid = some d) : readsBack mantissa scale d = true := by
  simp only [onGrid?] at hgrid
  generalize (if 0 ≤ grid then _ else _ : ℕ) = num at hgrid
  generalize (if 0 ≤ grid then _ else _ : ℕ) = den at hgrid
  split at hgrid
  · cases hgrid
  · next hlow hhigh =>
    cases hgrid
    exact hlow
  · next hlow hhigh =>
    cases hgrid
    exact hhigh
  · next hlow hhigh =>
    cases hgrid
    -- the nearest multiple is one of the two neighbours
    simp only [Rounding.nearest]
    split_ifs <;> assumption

lemma five_pow_pos : 0 < Nat.pow 5 1074 := by
  decide +kernel

/-- Ten to the power of the scale of one. -/
lemma ten_pow_unitScale : 10 ^ 1074 = unitsOfOne * Nat.pow 5 1074 := by
  decide +kernel

/-- The exact decimal of a double has too few digits to be taken for infinite, and enough not to be
taken for zero. -/
lemma exact_bounds {mantissa scale : ℕ} (h : Canonical mantissa scale) (hpos : mantissa ≠ 0) :
    10 ^ 743 ≤ mantissa * Nat.pow 2 scale * Nat.pow 5 1074 ∧
      mantissa * Nat.pow 2 scale * Nat.pow 5 1074 < 10 ^ 1384 := by
  have hunits : 0 < mantissa * Nat.pow 2 scale :=
    Nat.mul_pos (Nat.pos_of_ne_zero hpos) (powTwo_pos _)
  have hfive := five_pow_pos
  have hleast : 10 ^ 743 ≤ Nat.pow 5 1074 := by decide +kernel
  have hmost : unitLimit * Nat.pow 5 1074 < 10 ^ 1384 := by decide +kernel
  have hlimit := units_lt_unitLimit h
  generalize Nat.pow 5 1074 = five at *
  exact ⟨le_trans hleast (Nat.le_mul_of_pos_left _ hunits),
    lt_trans (Nat.mul_lt_mul_of_pos_right hlimit hfive) hmost⟩

/-- The exact decimal of a double rounds to the double. -/
lemma ofDecimal_exact {mantissa scale : ℕ} (h : Canonical mantissa scale) (hpos : mantissa ≠ 0) :
    ofDecimal false (mantissa * Nat.pow 2 scale * Nat.pow 5 1074) (-1074) =
      .finite false mantissa scale h := by
  obtain ⟨hleast, hmost⟩ := exact_bounds h hpos
  have hexact : nearestDecimal false (mantissa * Nat.pow 2 scale * Nat.pow 5 1074) (-1074) =
      .finite false mantissa scale h := by
    rw [nearestDecimal, if_neg (by omega), show (-(-1074 : ℤ)).toNat = 1074 from rfl,
      ten_pow_unitScale, ofRatio_mul_mul _ _ _ five_pow_pos]
    exact ofRatio_units false h hpos
  generalize mantissa * Nat.pow 2 scale * Nat.pow 5 1074 = digits at *
  have hne : digits ≠ 0 := Nat.ne_of_gt (lt_of_lt_of_le (Nat.pow_pos (by norm_num)) hleast)
  have hlong := mt (Nat.length_toDigits_le_iff (by norm_num) (by norm_num)).1 (Nat.not_lt.2 hleast)
  have hshort := (Nat.length_toDigits_le_iff (by norm_num) (by norm_num)).2 hmost
  rw [ofDecimal_eq, if_neg hne, if_neg (by omega), if_neg (by omega)]
  exact hexact

/-- The decimal that writes a double reads back to it. -/
theorem ofDecimal_shortest (negative : Bool) {mantissa scale : ℕ} (h : Canonical mantissa scale)
    (hpos : mantissa ≠ 0) :
    ofDecimal negative (shortest mantissa scale).digits (shortest mantissa scale).exponent =
      .finite negative mantissa scale h := by
  have hpositive : ofDecimal false (shortest mantissa scale).digits
      (shortest mantissa scale).exponent = .finite false mantissa scale h := by
    rw [shortest, ofDecimal_normalize]
    cases hfound : (List.range 17).findSome? fun extra : ℕ =>
        onGrid? mantissa scale (leadingExponent (mantissa * Nat.pow 2 scale) - extra) with
    | none => exact ofDecimal_exact h hpos
    | some d =>
      obtain ⟨extra, -, hgrid⟩ := List.exists_of_findSome?_eq_some hfound
      exact (readsBack_iff h d).1 (readsBack_of_onGrid? hgrid)
  exact ofDecimal_of_finite hpositive negative

end Binary64

end RuleFixtures
