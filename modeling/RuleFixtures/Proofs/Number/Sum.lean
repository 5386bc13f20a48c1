import Mathlib.Order.Monotone.Basic
import Mathlib.Tactic
import RuleFixtures.Proofs.Number.Decimal
import RuleFixtures.Proofs.Number.Monotone

/-!
Sums of doubles in their order.

A sum is the exact sum of the ranks of its terms, rounded once. Rounding keeps the order and leaves
the ranks of doubles as they are, so a sum lies on the same side of a term as the other term is
from zero.

* `Binary64.roundRank` is the rank of the double that an exact number of units is rounded to:
  `Binary64.roundRank_mono` and `Binary64.roundRank_rank`.
* `Binary64.rank_add`: the rank of a sum.
* `Binary64.exists_units_ofRatio`: a quotient that is at most a double is rounded to a finite one.
-/

namespace RuleFixtures.Binary64

/-! ### Rounded magnitudes -/

lemma unitLimit_eq : unitLimit = 2 ^ 53 * 2 ^ maxScale := by
  decide +kernel

lemma abs_signed (negative : Bool) (n : ℕ) : |signed negative n| = n := by
  cases negative <;> simp [signed]

/-- The finite doubles lie on either side of zero below the limit. -/
lemma abs_rank_lt_iff {x : Binary64} (hx : x.isNaN = false) :
    |x.rank| < unitLimit ↔ x.isFinite = true := by
  cases x with
  | nan => cases hx
  | infinite negative => simp only [rank, abs_signed, isFinite, lt_irrefl, Bool.false_eq_true]
  | finite negative mantissa scale canonical =>
    have hlt := units_lt_unitLimit canonical
    simp only [rank, abs_signed, isFinite, iff_true]
    exact Int.ofNat_lt.2 hlt

/-- The rank of a packed mantissa, which may lie beyond the finite doubles. -/
lemma rank_pack (negative : Bool) {mantissa scale : ℕ} (hmantissa : mantissa ≤ 2 ^ 53)
    (hleast : scale = 0 ∨ 2 ^ 52 ≤ mantissa) :
    (pack negative mantissa scale).rank = signed negative (min (mantissa * 2 ^ scale) unitLimit) ∧
      (pack negative mantissa scale).isNaN = false := by
  rw [pack]
  -- a full mantissa is halved and its scale raised, which keeps the product
  by_cases hfull : mantissa = Nat.pow 2 53
  · rw [if_pos hfull]
    have hunits : Nat.pow 2 52 * Nat.pow 2 (scale + 1) = mantissa * 2 ^ scale := by
      rw [hfull]
      change 2 ^ 52 * 2 ^ (scale + 1) = 2 ^ 53 * 2 ^ scale
      ring
    -- beyond the last scale the rank is the limit itself
    by_cases hscale : scale + 1 ≤ maxScale
    · have hcanonical : Canonical (Nat.pow 2 52) (scale + 1) :=
        ⟨by decide, hscale, Or.inr (le_refl _)⟩
      have hlt := units_lt_unitLimit hcanonical
      simp only [dif_pos hcanonical, rank, isNaN, and_true]
      rw [hunits] at hlt ⊢
      rw [Nat.min_eq_left hlt.le]
    · have hnot : ¬ Canonical (Nat.pow 2 52) (scale + 1) := fun h => hscale h.2.1
      have hle : unitLimit ≤ mantissa * 2 ^ scale := by
        rw [unitLimit_eq, hfull]
        exact Nat.mul_le_mul (le_refl _) (Nat.pow_le_pow_right (by norm_num) (by omega))
      simp only [dif_neg hnot, rank, isNaN, Nat.min_eq_right hle, and_true]
  · rw [if_neg hfull]
    by_cases hscale : scale ≤ maxScale
    · have hcanonical : Canonical mantissa scale :=
        ⟨lt_of_le_of_ne hmantissa hfull, hscale, hleast⟩
      have hlt := units_lt_unitLimit hcanonical
      simp only [dif_pos hcanonical, rank, isNaN, and_true]
      exact congrArg (signed negative) (Nat.min_eq_left hlt.le).symm
    · have hnot : ¬ Canonical mantissa scale := fun h => hscale h.2.1
      have hle : unitLimit ≤ mantissa * 2 ^ scale := by
        rw [unitLimit_eq]
        calc 2 ^ 53 * 2 ^ maxScale = 2 ^ 52 * 2 ^ (maxScale + 1) := by ring
          _ ≤ mantissa * 2 ^ scale := Nat.mul_le_mul (hleast.resolve_left (by omega))
            (Nat.pow_le_pow_right (by norm_num) (by omega))
      simp only [dif_neg hnot, rank, isNaN, Nat.min_eq_right hle, and_true]

lemma rank_ofRatio (negative : Bool) (num : ℕ) {den : ℕ} (hden : 0 < den) :
    (ofRatio negative num den).rank = signed negative (min (ratioUnits num den) unitLimit) ∧
      (ofRatio negative num den).isNaN = false := by
  obtain ⟨hleast, hbelow⟩ := ratioScale_bounds num den
  have hpos : 0 < den * 2 ^ ratioScale num den := Nat.mul_pos hden (by positivity)
  refine rank_pack negative (Rounding.nearest_le hpos ?_)
    (hleast.imp_right fun h => Rounding.le_nearest hpos ?_)
  · calc num * unitsOfOne ≤ 2 ^ 53 * 2 ^ ratioScale num den * den :=
          ((Nat.div_lt_iff_lt_mul hden).1 hbelow).le
      _ = 2 ^ 53 * (den * 2 ^ ratioScale num den) := by ring
  · calc 2 ^ 52 * (den * 2 ^ ratioScale num den) = 2 ^ 52 * 2 ^ ratioScale num den * den := by ring
      _ ≤ num * unitsOfOne := (Nat.le_div_iff_mul_le hden).1 h

/-- The magnitude of a double is not rounded. -/
lemma ratioUnits_units {mantissa scale : ℕ} (h : Canonical mantissa scale) :
    ratioUnits (mantissa * 2 ^ scale) unitsOfOne = mantissa * 2 ^ scale := by
  by_cases hpos : mantissa = 0
  · subst hpos
    have hden : 0 < unitsOfOne * 2 ^ ratioScale (0 * 2 ^ scale) unitsOfOne :=
      Nat.mul_pos unitsOfOne_pos (by positivity)
    rw [ratioUnits, Nat.zero_mul, Nat.zero_mul, nearest_eq_zero, Nat.zero_mul]
    · exact Nat.mul_pos unitsOfOne_pos (by positivity)
    · exact Nat.mul_pos unitsOfOne_pos (by positivity)
  · have hrank := (rank_ofRatio false (mantissa * 2 ^ scale) unitsOfOne_pos).1
    rw [ofRatio_units false h hpos] at hrank
    have hlt := units_lt_unitLimit h
    have heq : mantissa * 2 ^ scale =
        min (ratioUnits (mantissa * 2 ^ scale) unitsOfOne) unitLimit := Int.ofNat_inj.1 hrank
    change mantissa * 2 ^ scale < _ at hlt
    omega

/-! ### Rounded ranks -/

/-- The rank of the double nearest to a number of units. -/
def roundRank (units : ℤ) : ℤ :=
  signed (decide (units < 0)) (min (ratioUnits units.natAbs unitsOfOne) unitLimit)

lemma signed_natAbs (units : ℤ) : signed (decide (units < 0)) units.natAbs = units := by
  by_cases h : units < 0
  · simp only [h, decide_true, signed, if_true]
    omega
  · simp only [h, decide_false, signed, Bool.false_eq_true, if_false]
    omega

/-- A greater number of units is not rounded to a lesser double. -/
theorem roundRank_mono : Monotone roundRank := by
  intro a b h
  have hmono {m n : ℕ} (h : m ≤ n) : min (ratioUnits m unitsOfOne) unitLimit ≤
      min (ratioUnits n unitsOfOne) unitLimit :=
    min_le_min_right _ (ratioUnits_mono unitsOfOne_pos h)
  rw [roundRank, roundRank]
  by_cases ha : a < 0
  · by_cases hb : b < 0
    · have := hmono (by omega : b.natAbs ≤ a.natAbs)
      simp only [ha, hb, decide_true, signed, if_true]
      omega
    · simp only [ha, hb, decide_true, decide_false, signed, if_true, Bool.false_eq_true, if_false]
      omega
  · have hb : ¬ b < 0 := by omega
    have := hmono (by omega : a.natAbs ≤ b.natAbs)
    simp only [ha, hb, decide_false, signed, Bool.false_eq_true, if_false]
    omega

/-- The rank of a finite double is not rounded. -/
lemma roundRank_rank {x : Binary64} (hx : x.isFinite = true) : roundRank x.rank = x.rank := by
  cases x with
  | finite negative mantissa scale canonical =>
    have hlt := units_lt_unitLimit canonical
    have habs : (rank (.finite negative mantissa scale canonical)).natAbs =
        mantissa * 2 ^ scale := by
      have := abs_signed negative (mantissa * Nat.pow 2 scale)
      exact Int.ofNat_inj.1 ((Int.natCast_natAbs _).trans this)
    have hbound : mantissa * 2 ^ scale ≤ unitLimit := hlt.le
    rw [roundRank, habs, ratioUnits_units canonical, Nat.min_eq_left hbound, ← habs]
    exact signed_natAbs _
  | _ => cases hx

lemma abs_roundRank_le (units : ℤ) : |roundRank units| ≤ unitLimit := by
  rw [roundRank, abs_signed]
  exact Int.ofNat_le.2 (Nat.min_le_right _ _)

/-- The rank of a sum is the rounded sum of the ranks. -/
theorem rank_add {x y : Binary64} (hx : x.isFinite = true) (hy : y.isFinite = true) :
    (x.add y).rank = roundRank (x.rank + y.rank) ∧ (x.add y).isNaN = false := by
  cases x with
  | finite s m e canonical =>
    cases y with
    | finite t n f canonical' =>
      change (ofUnits (s && t) (rank (.finite s m e canonical) + rank (.finite t n f canonical'))
        1).rank = _ ∧ (ofUnits (s && t) (rank (.finite s m e canonical) +
          rank (.finite t n f canonical')) 1).isNaN = false
      generalize rank (.finite s m e canonical) + rank (.finite t n f canonical') = units
      rw [ofUnits]
      -- a sum of zero has a sign of its own, but no rank
      by_cases hzero : units = 0
      · rw [if_pos hzero, hzero]
        have hround : roundRank 0 = 0 :=
          roundRank_rank (x := zero false) rfl
        rw [hround]
        cases s && t <;> exact ⟨rfl, rfl⟩
      · rw [if_neg hzero, Nat.one_mul]
        exact rank_ofRatio _ _ unitsOfOne_pos
    | _ => cases hy
  | _ => cases hx

/-! ### Finite results -/

lemma ratioUnits_mul_mul (num den : ℕ) {k : ℕ} (hk : 0 < k) :
    ratioUnits (num * k) (den * k) = ratioUnits num den := by
  have hnum : num * k * unitsOfOne = num * unitsOfOne * k := by ring
  have hden (scale : ℕ) : den * k * 2 ^ scale = den * 2 ^ scale * k := by ring
  simp only [ratioUnits, ratioScale, hnum, hden, Nat.mul_div_mul_right _ _ hk,
    Rounding.nearest_mul_mul _ _ hk]

/-- A quotient that is at most the magnitude of a double is rounded to at most this magnitude. -/
lemma ratioUnits_le_units {num den mantissa scale : ℕ} (hden : 0 < den)
    (h : Canonical mantissa scale) (hle : num * unitsOfOne ≤ mantissa * 2 ^ scale * den) :
    ratioUnits num den ≤ mantissa * 2 ^ scale := by
  calc ratioUnits num den
      = ratioUnits (num * unitsOfOne) (den * unitsOfOne) :=
        (ratioUnits_mul_mul num den unitsOfOne_pos).symm
    _ ≤ ratioUnits (mantissa * 2 ^ scale * den) (den * unitsOfOne) :=
        ratioUnits_mono (Nat.mul_pos hden unitsOfOne_pos) hle
    _ = mantissa * 2 ^ scale := by
        rw [Nat.mul_comm den, ratioUnits_mul_mul _ _ hden, ratioUnits_units h]

/-- The magnitude is at most some number of units. -/
def Within (x : Binary64) (bound : ℕ) : Prop := x.isNaN = false ∧ |x.rank| ≤ bound

lemma Within.mono {x : Binary64} {bound bound' : ℕ} (h : x.Within bound) (hle : bound ≤ bound') :
    x.Within bound' := ⟨h.1, h.2.trans (Int.ofNat_le.2 hle)⟩

/-- What is at most a finite double is finite. -/
lemma Within.isFinite {x : Binary64} {mantissa scale : ℕ} (h : x.Within (mantissa * 2 ^ scale))
    (hcanonical : Canonical mantissa scale) : x.isFinite = true :=
  (abs_rank_lt_iff h.1).1 (h.2.trans_lt (Int.ofNat_lt.2 (units_lt_unitLimit hcanonical)))

lemma within_ofRatio (negative : Bool) {num den mantissa scale : ℕ} (hden : 0 < den)
    (h : Canonical mantissa scale) (hle : num * unitsOfOne ≤ mantissa * 2 ^ scale * den) :
    (ofRatio negative num den).Within (mantissa * 2 ^ scale) := by
  obtain ⟨hrank, hnan⟩ := rank_ofRatio negative num hden
  refine ⟨hnan, ?_⟩
  rw [hrank, abs_signed]
  exact Int.ofNat_le.2 ((Nat.min_le_left _ _).trans (ratioUnits_le_units hden h hle))

lemma within_add {x y : Binary64} (hx : x.isFinite = true) (hy : y.isFinite = true)
    {mantissa scale : ℕ} (h : Canonical mantissa scale)
    (hle : |x.rank + y.rank| ≤ (mantissa * 2 ^ scale : ℕ)) :
    (x.add y).Within (mantissa * 2 ^ scale) := by
  obtain ⟨hrank, hnan⟩ := rank_add hx hy
  refine ⟨hnan, ?_⟩
  rw [hrank, roundRank, abs_signed]
  refine Int.ofNat_le.2 ((Nat.min_le_left _ _).trans (ratioUnits_le_units unitsOfOne_pos h ?_))
  refine Nat.mul_le_mul_right _ (Int.ofNat_le.1 ?_)
  rwa [Int.natCast_natAbs]

lemma rank_neg (x : Binary64) : x.neg.rank = -x.rank := by
  cases x with
  | nan => rfl
  | infinite negative =>
    cases negative <;> simp only [neg, rank, signed, Bool.not_true, Bool.not_false, if_true,
      Bool.false_eq_true, if_false, neg_neg]
  | finite negative mantissa scale canonical =>
    cases negative <;> simp only [neg, rank, signed, Bool.not_true, Bool.not_false, if_true,
      Bool.false_eq_true, if_false, neg_neg]

lemma isFinite_neg (x : Binary64) : x.neg.isFinite = x.isFinite := by
  cases x <;> rfl

/-- The magnitude of the largest power of two among the doubles, and two numbers above it. -/
lemma canonical_top : Canonical (2 ^ 52) maxScale ∧ Canonical (2 ^ 52 + 1) maxScale ∧
    Canonical (2 ^ 52 + 2) maxScale := by
  decide

/-- An integer that is small enough is a finite double. -/
lemma isFinite_ofInt {n : ℤ} (h : n.natAbs * unitsOfOne ≤ (2 ^ 52 + 2) * 2 ^ maxScale) :
    (ofInt n).isFinite = true :=
  (within_ofRatio _ Nat.one_pos canonical_top.2.2 (by rwa [Nat.mul_one])).isFinite canonical_top.2.2

lemma signedUnits?_eq_some {x : Binary64} (hx : x.isFinite = true) :
    x.signedUnits? = some x.rank := by
  cases x with
  | finite negative mantissa scale canonical => rfl
  | _ => cases hx

/-- The integer nearest to a number that is small enough is a finite double. -/
lemma isFinite_nearestDown {x : Binary64} (hx : x.Within ((2 ^ 52 + 1) * 2 ^ maxScale)) :
    x.nearestDown.isFinite = true := by
  have hfinite := hx.isFinite canonical_top.2.1
  have hone : unitsOfOne ≤ 2 ^ maxScale := by
    rw [unitsOfOne_eq]
    exact Nat.pow_le_pow_right (by norm_num) (by decide)
  have hpos : (0 : ℤ) < unitsOfOne := Int.ofNat_lt.2 unitsOfOne_pos
  have hbound := hx.2
  rw [nearestDown, signedUnits?_eq_some hfinite]
  dsimp only
  generalize x.rank = units at hbound
  -- a whole number next to a number is small, too
  have hnear {n : ℤ} (hlow : units - unitsOfOne ≤ unitsOfOne * n)
      (hhigh : unitsOfOne * n ≤ units + unitsOfOne) : (ofInt n).isFinite = true := by
    refine isFinite_ofInt ?_
    have habs : ((n.natAbs * unitsOfOne : ℕ) : ℤ) = |unitsOfOne * n| := by
      rw [Nat.cast_mul, Int.natCast_natAbs, abs_mul, Nat.abs_cast, mul_comm]
    have hle : |(unitsOfOne : ℤ) * n| ≤ |units| + unitsOfOne := by
      rw [abs_le]
      have := neg_abs_le units
      have := le_abs_self units
      omega
    have hmul : (2 ^ 52 + 2) * 2 ^ maxScale = (2 ^ 52 + 1) * 2 ^ maxScale + 2 ^ maxScale := by ring
    generalize 2 ^ maxScale = top at *
    omega
  -- rounding down or up leaves one of the two neighbours
  have hdiv := Int.emod_add_mul_ediv units unitsOfOne
  have hmod := Int.emod_nonneg units hpos.ne'
  have hlt := Int.emod_lt_of_pos units hpos
  rw [Int.fdiv_eq_ediv_of_nonneg _ hpos.le]
  split
  · exact hfinite
  · split
    · exact hnear (by rw [mul_add]; omega) (by rw [mul_add]; omega)
    · exact hnear (by omega) (by omega)

lemma within_divNat {x : Binary64} (hx : x.isFinite = true) {d : ℕ} (hd : 2 ≤ d) :
    (x.divNat d).Within (2 ^ 52 * 2 ^ maxScale) := by
  cases x with
  | finite s m e canonical =>
    have hlt := units_lt_unitLimit canonical
    rw [unitLimit_eq] at hlt
    rw [divNat]
    refine within_ofRatio s (Nat.mul_pos unitsOfOne_pos (by omega)) canonical_top.1 ?_
    calc m * Nat.pow 2 e * unitsOfOne
        ≤ 2 ^ 53 * 2 ^ maxScale * unitsOfOne := Nat.mul_le_mul_right _ hlt.le
      _ = 2 ^ 52 * 2 ^ maxScale * (unitsOfOne * 2) := by ring
      _ ≤ 2 ^ 52 * 2 ^ maxScale * (unitsOfOne * d) :=
        Nat.mul_le_mul_left _ (Nat.mul_le_mul_left _ hd)
  | _ => cases hx

/-- A rest that is taken off a finite double leaves a finite one. -/
lemma isFinite_sub_remainder {x rest : Binary64} {d : ℕ} (hrest : x.remainder? d = some rest) :
    (x.sub rest).isFinite = true := by
  cases x with
  | finite s m e canonical =>
    obtain rfl : ofRatio s (m * Nat.pow 2 e % (unitsOfOne * d)) unitsOfOne = rest :=
      Option.some.inj hrest
    -- the rest is not above the magnitude, and has its sign
    have hle : m * Nat.pow 2 e % (unitsOfOne * d) * unitsOfOne ≤ m * 2 ^ e * unitsOfOne :=
      Nat.mul_le_mul_right _ (Nat.mod_le _ _)
    have hfinite := (within_ofRatio s unitsOfOne_pos canonical hle).isFinite canonical
    obtain ⟨hrank, hnan⟩ := rank_ofRatio s (m * Nat.pow 2 e % (unitsOfOne * d)) unitsOfOne_pos
    have hunits := (Nat.min_le_left _ unitLimit).trans
      (ratioUnits_le_units unitsOfOne_pos canonical hle)
    refine (within_add rfl ((isFinite_neg _).trans hfinite) canonical ?_).isFinite canonical
    rw [rank_neg, hrank]
    change |signed s (m * 2 ^ e) + -signed s _| ≤ _
    generalize min _ unitLimit = units at hunits
    generalize m * 2 ^ e = magnitude at hunits
    cases s <;> simp only [signed, Bool.false_eq_true, if_false, if_true] <;> rw [abs_le] <;>
      omega
  | _ => cases hrest

/-- A quotient of a finite double that is rounded down is finite. -/
theorem isFinite_floorDiv {x : Binary64} (hx : x.isFinite = true) {d : ℕ} (hd : 2 ≤ d) :
    (x.floorDiv d).isFinite = true := by
  obtain ⟨rest, hrest⟩ : ∃ rest, x.remainder? d = some rest := by
    cases x with
    | finite => exact ⟨_, rfl⟩
    | _ => cases hx
  rw [floorDiv, hrest]
  dsimp only
  have hquotient := within_divNat (isFinite_sub_remainder hrest) hd
  generalize (x.sub rest).divNat d = quotient at hquotient
  -- one less is still far from the limit
  have hlowered : (if (!rest.isZero && x.isNegative) = true then quotient.add (ofInt (-1))
      else quotient).Within ((2 ^ 52 + 1) * 2 ^ maxScale) := by
    have hmul : (2 ^ 52 + 1) * 2 ^ maxScale = 2 ^ 52 * 2 ^ maxScale + 2 ^ maxScale := by ring
    split
    · have hone : unitsOfOne ≤ 2 ^ maxScale := by
        rw [unitsOfOne_eq]
        exact Nat.pow_le_pow_right (by norm_num) (by decide)
      have hrank : (ofInt (-1)).rank = -(unitsOfOne : ℤ) := by decide +kernel
      refine within_add (hquotient.isFinite canonical_top.1) (by decide +kernel)
        canonical_top.2.1 ?_
      have hbound := abs_le.1 hquotient.2
      rw [hrank, abs_le]
      omega
    · exact hquotient.mono (by omega)
  generalize (if (!rest.isZero && x.isNegative) = true then quotient.add (ofInt (-1))
    else quotient) = lowered at hlowered ⊢
  split
  · rfl
  · exact isFinite_nearestDown hlowered

end RuleFixtures.Binary64
