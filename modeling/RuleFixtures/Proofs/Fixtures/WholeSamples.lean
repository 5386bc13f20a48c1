import RuleFixtures.Proofs.Fixtures.SampleReading
import RuleFixtures.Proofs.Number.WholeDecimal

/-!
The texts of whole sample values.

A whole number loses its fraction below `10 ^ 15`, and from `10 ^ 16` on it is written with an
exponent. In between it keeps a zero behind the point: there the text of a double is still laid out
with a point.

* `SampleText.write_eq_write_iff`: two values have one text just if they are the same number.
* `SampleText.write_of_isIntegral`: how the text of a whole number looks, and that it is read back.
-/

namespace RuleFixtures

open Binary64 (ofInt signed unitsOfOne)

namespace Binary64

/-! ### Same numbers -/

lemma sameNumber_iff {x y : Binary64} :
    x.SameNumber y ↔ x.isNaN = y.isNaN ∧ x.rank = y.rank := by
  cases hx : x.isNaN with
  | true =>
    have hrank {z : Binary64} (hz : z.isNaN = true) : z.rank = 0 := by
      cases z with
      | nan => rfl
      | _ => cases hz
    have hnot : x.numEq y = false := by simp [numEq, le, hx]
    simp only [SameNumber, hx, hnot, true_and, Bool.false_eq_true, or_false]
    exact ⟨fun hy => ⟨hy.symm, by rw [hrank hx, hrank hy]⟩, fun h => h.1.symm⟩
  | false =>
    cases hy : y.isNaN with
    | true =>
      have hnot : x.numEq y = false := by simp [numEq, le, hy]
      simp [SameNumber, hx, hnot]
    | false => simp [SameNumber, hx, numEq_iff_rank_eq hx hy]

lemma sameNumber_iff_numEq {x y : Binary64} (hx : x.isNaN = false) :
    x.SameNumber y ↔ x.numEq y = true := by
  simp [SameNumber, hx]

/-- Only zero has both signs. -/
lemma eq_and_eq_or_of_signed_eq {s t : Bool} {m n : ℕ} (h : signed s m = signed t n) :
    m = n ∧ (s = t ∨ m = 0) := by
  cases s <;> cases t <;> simp [signed] at h ⊢ <;> omega

lemma isZero_of_units_eq_zero (negative : Bool) {mantissa scale : ℕ}
    (h : Canonical mantissa scale) (hzero : mantissa * 2 ^ scale = 0) :
    (Binary64.finite negative mantissa scale h).isZero = true := by
  have hpow : 2 ^ scale ≠ 0 := by positivity
  exact decide_eq_true ((Nat.mul_eq_zero.1 hzero).resolve_right hpow)

/-- The same number is the same double, but for the sign of zero. -/
lemma eq_or_isZero_of_sameNumber {x y : Binary64} (h : x.SameNumber y) :
    x = y ∨ x.isZero = true ∧ y.isZero = true := by
  obtain ⟨hnan, hrank⟩ := sameNumber_iff.1 h
  cases hx : x.isNaN with
  | true =>
    rw [hx] at hnan
    cases x <;> cases y <;> simp [isNaN] at hx hnan ⊢
  | false =>
    rw [hx] at hnan
    -- the rank tells whether the double is finite, so mixed cases are out
    have hfinite : x.isFinite = y.isFinite := by
      rw [Bool.eq_iff_iff, ← abs_rank_lt_iff hx, ← abs_rank_lt_iff hnan.symm, hrank]
    cases x with
    | nan => cases hx
    | infinite s =>
      cases y with
      | nan => cases hnan
      | infinite t =>
        have hlimit := units_lt_unitLimit (by decide : Canonical 0 0)
        obtain ⟨-, rfl | hzero⟩ := eq_and_eq_or_of_signed_eq hrank
        · exact .inl rfl
        · omega
      | finite => cases hfinite
    | finite s m e canonical =>
      cases y with
      | nan => cases hnan
      | infinite => cases hfinite
      | finite t n f canonical' =>
        obtain ⟨hunits, rfl | hzero⟩ := eq_and_eq_or_of_signed_eq hrank
        · exact .inl (eq_of_units? rfl (congrArg (fun units => some (s, units)) hunits.symm))
        · exact .inr ⟨isZero_of_units_eq_zero s canonical hzero,
            isZero_of_units_eq_zero t canonical' (hunits.symm.trans hzero)⟩

/-! ### Whole numbers -/

lemma isIntegral_of_units? {x : Binary64} {negative : Bool} {n : ℕ}
    (h : x.units? = some (negative, n * unitsOfOne)) : x.isIntegral = true := by
  rw [isIntegral, h]
  exact decide_eq_true (Nat.mul_mod_left _ _)

lemma exists_of_isIntegral {x : Binary64} (hx : x.isIntegral = true) :
    ∃ negative mantissa scale n, ∃ h : Canonical mantissa scale,
      x = .finite negative mantissa scale h ∧ mantissa * 2 ^ scale = n * unitsOfOne := by
  cases x with
  | finite negative mantissa scale h =>
    have hmod : mantissa * 2 ^ scale % unitsOfOne = 0 := of_decide_eq_true hx
    exact ⟨negative, mantissa, scale, _, h, rfl,
      (Nat.div_mul_cancel (Nat.dvd_of_mod_eq_zero hmod)).symm⟩
  | _ => cases hx

end Binary64

namespace SampleText

section Whole

variable {mantissa scale n : ℕ} (negative : Bool) (h : Canonical mantissa scale)
  (hunits : mantissa * 2 ^ scale = n * unitsOfOne)

include hunits

/-- It is an integer, an integer with a zero behind the point, or a text with an exponent. -/
lemma write_cases :
    n < 10 ^ 15 ∧ write (.finite negative mantissa scale h) = toString (signed negative n) ∨
      (10 ^ 15 ≤ n ∧ n < 10 ^ 16) ∧
        write (.finite negative mantissa scale h) = toString (signed negative n) ++ ".0" ∨
      10 ^ 16 ≤ n ∧ HasExponent (write (.finite negative mantissa scale h)).toList := by
  rw [write_whole negative h hunits]
  by_cases hsmall : n < 10 ^ 15
  · exact .inl ⟨hsmall, if_pos hsmall⟩
  · rw [if_neg hsmall]
    rcases Nat.lt_or_ge n (10 ^ 16) with hlimit | hleast
    · exact .inr (.inl ⟨⟨Nat.not_lt.1 hsmall, hlimit⟩,
        Binary64.text_whole negative h hunits (by omega) hlimit⟩)
    · exact .inr (.inr ⟨hleast, Binary64.hasExponent_text negative h hunits hleast⟩)

/-- The three ways exclude each other. -/
lemma write_forms :
    (write (.finite negative mantissa scale h) = toString (signed negative n) ↔ n < 10 ^ 15) ∧
      (HasExponent (write (.finite negative mantissa scale h)).toList ↔ 10 ^ 16 ≤ n) ∧
      (HasZeroFraction (write (.finite negative mantissa scale h)).toList ↔
        10 ^ 15 ≤ n ∧ n < 10 ^ 16) ∧
      (write (.finite negative mantissa scale h) = toString (signed negative n) ++ ".0" ↔
        10 ^ 15 ≤ n ∧ n < 10 ^ 16) := by
  have hcases := write_cases negative h hunits
  have hinteger := not_hasZeroFraction_toString (signed negative n)
  have hnoExponent := not_hasExponent_toString (signed negative n)
  have hpointed := hasZeroFraction_toString_append (signed negative n)
  generalize write (.finite negative mantissa scale h) = text at hcases ⊢
  generalize toString (signed negative n) = integer at *
  have hne : integer ≠ integer ++ ".0" := fun heq => hinteger (heq ▸ hpointed)
  have hnoExponent' : ¬ HasExponent (integer ++ ".0").toList :=
    fun hexponent => hexponent.not_hasZeroFraction hpointed
  rcases hcases with ⟨hsmall, rfl⟩ | ⟨hbetween, rfl⟩ | ⟨hleast, hexponent⟩
  · exact ⟨iff_of_true rfl hsmall, iff_of_false hnoExponent (by omega),
      iff_of_false hinteger (by omega), iff_of_false hne (by omega)⟩
  · exact ⟨iff_of_false hne.symm (by omega), iff_of_false hnoExponent' (by omega),
      iff_of_true hpointed hbetween, iff_of_true rfl hbetween⟩
  · exact ⟨iff_of_false (fun heq => hnoExponent (heq ▸ hexponent)) (by omega),
      iff_of_true hexponent hleast, iff_of_false hexponent.not_hasZeroFraction (by omega),
      iff_of_false (fun heq => hnoExponent' (heq ▸ hexponent)) (by omega)⟩

end Whole

lemma write_of_isZero {x : Binary64} (hx : x.isZero = true) : write x = "0" := by
  cases x with
  | finite negative mantissa scale h =>
    obtain rfl : mantissa = 0 := of_decide_eq_true hx
    rw [write_whole negative h (n := 0) (by simp), if_pos (by norm_num)]
    cases negative <;> rfl
  | _ => cases hx

/-- Two values have the same text just if they are the same number. -/
theorem write_eq_write_iff (x y : Binary64) : write x = write y ↔ x.SameNumber y := by
  constructor
  · intro hwrite
    obtain ⟨z, hz, hsame⟩ := exists_read?_write x
    obtain ⟨z', hz', hsame'⟩ := exists_read?_write y
    rw [hwrite, hz'] at hz
    cases hz
    rw [Binary64.sameNumber_iff] at hsame hsame' ⊢
    exact ⟨hsame.1.symm.trans hsame'.1, hsame.2.symm.trans hsame'.2⟩
  · intro hsame
    rcases Binary64.eq_or_isZero_of_sameNumber hsame with rfl | ⟨hx, hy⟩
    · rfl
    · rw [write_of_isZero hx, write_of_isZero hy]

/-- The text of a whole number is an integer below `10 ^ 15` and has an exponent from `10 ^ 16` on,
and in between, and there alone, a zero is left behind the point; it is read back, and different
numbers have different texts. -/
theorem write_of_isIntegral {x : Binary64} (hx : x.isIntegral = true) :
    ∃ n : ℤ, x.signedUnits? = some (n * unitsOfOne) ∧
      (write x = toString n ↔ n.natAbs < 10 ^ 15) ∧
      (HasExponent (write x).toList ↔ 10 ^ 16 ≤ n.natAbs) ∧
      (HasZeroFraction (write x).toList ↔ 10 ^ 15 ≤ n.natAbs ∧ n.natAbs < 10 ^ 16) ∧
      (write x = toString n ++ ".0" ↔ 10 ^ 15 ≤ n.natAbs ∧ n.natAbs < 10 ^ 16) ∧
      (∃ y, Binary64.read? (write x) = some y ∧ y.numEq x = true) ∧
      ∀ y : Binary64, write x = write y ↔ x.numEq y = true := by
  obtain ⟨negative, mantissa, scale, n, h, rfl, hunits⟩ := Binary64.exists_of_isIntegral hx
  obtain ⟨y, hread, hsame⟩ := exists_read?_write (.finite negative mantissa scale h)
  have hnan : y.isNaN = false := (Binary64.sameNumber_iff.1 hsame).1
  have hvalue : signed negative (mantissa * 2 ^ scale) = signed negative n * unitsOfOne := by
    rw [hunits, Binary64.signed_mul]
  obtain ⟨hinteger, hexponent, hzeros, hpointed⟩ := write_forms negative h hunits
  refine ⟨signed negative n, congrArg some hvalue, ?_⟩
  rw [Binary64.natAbs_signed]
  exact ⟨hinteger, hexponent, hzeros, hpointed,
    ⟨y, hread, (Binary64.sameNumber_iff_numEq hnan).1 hsame⟩,
    fun z => (write_eq_write_iff _ z).trans (Binary64.sameNumber_iff_numEq rfl)⟩

/-- Ten quadrillions of either sign are written with an exponent, and differently. -/
theorem write_of_isIntegral_tenQuadrillions :
    (ofInt (-10 ^ 16)).isIntegral = true ∧ HasExponent (write (ofInt (-10 ^ 16))).toList ∧
      write (ofInt (-10 ^ 16)) ≠ write (ofInt (10 ^ 16)) := by
  -- this number has more digits than a double keeps, but it is even
  have htens (negative : Bool) : (Binary64.ofRatio negative (10 ^ 16) 1).units? =
      some (negative, 10 ^ 16 * unitsOfOne) := by
    have heven := Binary64.units?_ofRatio_even negative (by norm_num : 5 * 10 ^ 15 < 2 ^ 53)
    rwa [show 2 * (5 * 10 ^ 15) = 10 ^ 16 by norm_num] at heven
  have hvalue : (ofInt (-10 ^ 16)).units? = some (true, 10 ^ 16 * unitsOfOne) := htens true
  have hother : (ofInt (10 ^ 16)).units? = some (false, 10 ^ 16 * unitsOfOne) := htens false
  have hx : (ofInt (-10 ^ 16)).isIntegral = true := Binary64.isIntegral_of_units? hvalue
  obtain ⟨n, hn, -, hexponent, -, -, -, hsame⟩ := write_of_isIntegral hx
  have hunit : (unitsOfOne : ℤ) ≠ 0 := Int.natCast_ne_zero.2 Binary64.unitsOfOne_pos.ne'
  obtain rfl : signed true (10 ^ 16) = n := by
    rw [Binary64.signedUnits?, hvalue] at hn
    refine mul_right_cancel₀ hunit (Eq.trans ?_ (Option.some.inj hn))
    exact (Binary64.signed_mul true _ _).symm
  refine ⟨hx, hexponent.2 (by decide), fun hwrite => ?_⟩
  obtain heq | ⟨hzero, -⟩ := Binary64.eq_or_isZero_of_sameNumber (.inr ((hsame _).1 hwrite))
  · rw [heq, hother] at hvalue
    cases hvalue
  · obtain ⟨mantissa, scale, h, hfinite, hunits⟩ := Binary64.exists_eq_finite hvalue
    rw [hfinite] at hzero
    exact Binary64.mantissa_ne_zero hunits (by norm_num) (of_decide_eq_true hzero)

/-- One quadrillion has a zero behind the point. -/
theorem write_oneQuadrillion :
    (ofInt (10 ^ 15)).isIntegral = true ∧ write (ofInt (10 ^ 15)) = "1000000000000000.0" ∧
      HasZeroFraction (write (ofInt (10 ^ 15))).toList := by
  have hwhole := Binary64.units?_ofInt (by norm_num : 10 ^ 15 < 2 ^ 53)
  rw [Nat.cast_pow, Nat.cast_ofNat] at hwhole
  obtain ⟨mantissa, scale, h, hfinite, hunits⟩ := Binary64.exists_eq_finite hwhole
  have hbetween : 10 ^ 15 ≤ 10 ^ 15 ∧ 10 ^ 15 < 10 ^ 16 := by decide
  obtain ⟨-, -, hzeros, hpointed⟩ := write_forms false h hunits
  rw [← hfinite] at hzeros hpointed
  exact ⟨Binary64.isIntegral_of_units? hwhole, hpointed.2 hbetween, hzeros.2 hbetween⟩

end SampleText

end RuleFixtures
