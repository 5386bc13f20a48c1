import RuleFixtures.Proofs.Number.Spelling
import RuleFixtures.Proofs.Number.Whole

/-!
The decimals that write whole numbers.

The search for the shortest decimal starts at the leading digit of the exact value and goes to finer
grids. Below `10 ^ 16` it comes to the grid of whole numbers at the latest, and no whole number but
the exact one reads back; above, the decimal that is found is no less than the power of ten that
leads the exact value.

* `Decimal.layout_of_isWhole` and `Decimal.exists_layout_exponent`: how a decimal is laid out on
  both sides of `10 ^ 16`.
* `Binary64.isWhole_shortest`: below `10 ^ 16` the shortest decimal of a whole number is exact.
* `Binary64.le_leading_shortest`: its leading digit does not stand below that of the exact value.
* `Binary64.text_whole` and `Binary64.hasExponent_text` say how the text of a whole number looks.
-/

namespace RuleFixtures

/-! ### Digits -/

section Digits

variable {n k : ℕ}

lemma lt_length_toDigits_iff (hpos : n ≠ 0) : k < (Nat.toDigits 10 n).length ↔ 10 ^ k ≤ n := by
  rcases Nat.eq_zero_or_pos k with rfl | hk
  · simp [Nat.length_toDigits_pos, Nat.one_le_iff_ne_zero, hpos]
  · rw [← not_le, Nat.length_toDigits_le_iff (by norm_num) hk, not_lt]

lemma toDigits_mul_pow (hpos : 0 < n) (k : ℕ) :
    Nat.toDigits 10 (n * 10 ^ k) = Nat.toDigits 10 n ++ List.replicate k '0' := by
  induction k with
  | zero => simp
  | succ k ih =>
    have hmul : n * 10 ^ (k + 1) = 10 * (n * 10 ^ k) + 0 := by ring
    have hless : 0 < n * 10 ^ k := Nat.mul_pos hpos (by positivity)
    rw [hmul, ← Nat.toDigits_append_toDigits (by norm_num) hless (by norm_num), ih,
      List.append_assoc, List.replicate_succ', Nat.toDigits_zero]

lemma length_toDigits_mul_pow (hpos : 0 < n) (k : ℕ) :
    (Nat.toDigits 10 (n * 10 ^ k)).length = (Nat.toDigits 10 n).length + k := by
  rw [toDigits_mul_pow hpos, List.length_append, List.length_replicate]

lemma getLast?_toDigits_ne (h : n % 10 ≠ 0) : (Nat.toDigits 10 n).getLast? ≠ some '0' := by
  have hdigit : ∀ r < 10, r ≠ 0 → Nat.digitChar r ≠ '0' := by decide
  rw [Nat.toDigits_eq_if (by norm_num)]
  split
  · next hless => simpa using hdigit n hless (by omega)
  · simpa using hdigit (n % 10) (Nat.mod_lt _ (by norm_num)) h

end Digits

namespace Decimal

variable {d : Decimal} {n : ℕ}

/-! ### Decimals of whole numbers -/

/-- The exponent of the leading digit. -/
def leading (d : Decimal) : ℤ := ((Nat.toDigits 10 d.digits).length : ℤ) - 1 + d.exponent

/-- The decimal stands for a whole number, with no digits behind the point. -/
structure IsWhole (d : Decimal) (n : ℕ) : Prop where
  exponent_nonneg : 0 ≤ d.exponent
  value : d.digits * 10 ^ d.exponent.toNat = n

lemma IsWhole.normalize (h : d.IsWhole n) : d.normalize.IsWhole n := by
  fun_induction Decimal.normalize d with
  | case1 d hzero ih =>
    obtain ⟨hexponent, hvalue⟩ := h
    refine ih ⟨by dsimp only; omega, ?_⟩
    have hpow : (d.exponent + 1).toNat = d.exponent.toNat + 1 := by omega
    have hdigits : d.digits / 10 * 10 = d.digits :=
      Nat.div_mul_cancel (Nat.dvd_of_mod_eq_zero hzero.2)
    dsimp only
    rw [hpow, pow_succ', ← Nat.mul_assoc, hdigits, hvalue]
  | case2 d hdone => exact h

lemma leading_normalize (d : Decimal) : d.normalize.leading = d.leading := by
  fun_induction Decimal.normalize d with
  | case1 d hzero ih =>
    have hdigits : d.digits / 10 * 10 = d.digits :=
      Nat.div_mul_cancel (Nat.dvd_of_mod_eq_zero hzero.2)
    have hlength := Binary64.length_toDigits_mul_ten (by omega : 0 < d.digits / 10)
    rw [hdigits] at hlength
    rw [ih, leading, leading]
    dsimp only
    omega
  | case2 d hdone => rfl

lemma normalize_mod (d : Decimal) : d.normalize.digits = 0 ∨ d.normalize.digits % 10 ≠ 0 := by
  fun_induction Decimal.normalize d with
  | case1 d hzero ih => exact ih
  | case2 d hdone => omega

/-- A whole number with up to sixteen digits is laid out with all of them, and a zero behind the
point. -/
lemma layout_of_isWhole (h : d.IsWhole n) (hpos : 0 < n) (hlimit : n < 10 ^ 16) :
    d.layout = Nat.toDigits 10 n ++ ['.', '0'] := by
  obtain ⟨hexponent, hvalue⟩ := h
  have hdigits : 0 < d.digits := by
    refine Nat.pos_of_ne_zero fun hzero => ?_
    rw [hzero, Nat.zero_mul] at hvalue
    omega
  have htext := toDigits_mul_pow hdigits d.exponent.toNat
  have hlength := length_toDigits_mul_pow hdigits d.exponent.toNat
  have hless := (Nat.length_toDigits_le_iff (b := 10) (by norm_num) (by norm_num)).2 hlimit
  have hone : 0 < (Nat.toDigits 10 d.digits).length := Nat.length_toDigits_pos
  rw [hvalue] at htext hlength
  have hnear : ¬ (((Nat.toDigits 10 d.digits).length : ℤ) - 1 + d.exponent < -4 ∨
      15 < ((Nat.toDigits 10 d.digits).length : ℤ) - 1 + d.exponent) := by omega
  simp only [layout, Bool.or_eq_true, decide_eq_true_eq]
  rw [if_neg hnear, if_pos hexponent, htext]

/-- A decimal with more digits in front of the point is laid out with an exponent. -/
lemma exists_layout_exponent (hleading : 15 < d.leading) (hmod : d.digits % 10 ≠ 0) :
    ∃ first rest, first.isDigit = true ∧ Digits rest ∧ rest.getLast? ≠ some '0' ∧
      d.layout = parts [first] rest (some d.leading) := by
  have hdigits := Digits.toDigits d.digits
  have hlast := getLast?_toDigits_ne hmod
  have hfar : ((Nat.toDigits 10 d.digits).length : ℤ) - 1 + d.exponent < -4 ∨
      15 < ((Nat.toDigits 10 d.digits).length : ℤ) - 1 + d.exponent := .inr hleading
  simp only [layout, leading, Bool.or_eq_true, decide_eq_true_eq]
  rw [if_pos hfar]
  cases hcases : Nat.toDigits 10 d.digits with
  | nil => exact absurd hcases Nat.toDigits_ne_nil
  | cons first rest =>
    rw [hcases] at hdigits hlast
    obtain ⟨hfirst, hrest⟩ := List.forall_mem_cons.1 hdigits
    cases rest with
    | nil => exact ⟨first, [], hfirst, .nil, by simp, by simp [parts, exponentPart]⟩
    | cons second rest =>
      refine ⟨first, second :: rest, hfirst, hrest, ?_, by simp [parts, exponentPart]⟩
      rwa [List.getLast?_cons_cons] at hlast

end Decimal

namespace Binary64

/-! ### The shortest decimal of a whole number -/

/-- Even numbers below `2 ^ 54` are doubles. -/
lemma units?_ofRatio_even (negative : Bool) {half : ℕ} (hhalf : half < 2 ^ 53) :
    (ofRatio negative (2 * half) 1).units? = some (negative, 2 * half * unitsOfOne) := by
  have hsteps : 2 * half * unitsOfOne = half * 2 ^ (unitScale + 1) := by
    rw [unitsOfOne_eq, pow_succ]
    ring
  rw [← ofRatio_mul_mul negative (2 * half) 1 unitsOfOne_pos, Nat.one_mul, hsteps]
  exact units?_ofRatio_steps negative hhalf (by decide)

/-- The leading digit of a whole number. -/
lemma leadingExponent_whole {n : ℕ} (hpos : 0 < n) :
    leadingExponent (n * unitsOfOne) = ((Nat.toDigits 10 n).length : ℤ) - 1 := by
  have hlength (k : ℕ) : (Nat.toDigits 10 (n * unitsOfOne * Nat.pow 10 k / unitsOfOne)).length =
      (Nat.toDigits 10 n).length + k := by
    rw [Nat.mul_right_comm, Nat.mul_div_cancel _ unitsOfOne_pos]
    exact length_toDigits_mul_pow hpos k
  simp only [leadingExponent, hlength]
  omega

section Whole

variable {mantissa scale n grid : ℕ} {d : Decimal}

/-- On a grid of whole numbers the neighbours of a whole number are found by division. -/
lemma onGrid?_natCast (hunits : mantissa * 2 ^ scale = n * unitsOfOne) (grid : ℕ) :
    onGrid? mantissa scale grid =
      if readsBack mantissa scale ⟨n / 10 ^ grid, grid⟩ then
        if readsBack mantissa scale ⟨n / 10 ^ grid + 1, grid⟩ then
          some ⟨Rounding.nearest n (10 ^ grid), grid⟩
        else some ⟨n / 10 ^ grid, grid⟩
      else if readsBack mantissa scale ⟨n / 10 ^ grid + 1, grid⟩ then
        some ⟨n / 10 ^ grid + 1, grid⟩
      else none := by
  have hnum : mantissa * Nat.pow 2 scale = n * unitsOfOne := hunits
  have hden : unitsOfOne * Nat.pow 10 grid = 10 ^ grid * unitsOfOne := Nat.mul_comm _ _
  simp only [onGrid?, Int.natCast_nonneg, if_true, Int.toNat_natCast, hnum, hden,
    Nat.mul_div_mul_right _ _ unitsOfOne_pos, Rounding.nearest_mul_mul _ _ unitsOfOne_pos]
  cases readsBack mantissa scale ⟨n / 10 ^ grid, grid⟩ <;>
    cases readsBack mantissa scale ⟨n / 10 ^ grid + 1, grid⟩ <;> rfl

/-- What is taken from a grid of whole numbers is next to the exact number. -/
lemma digits_of_onGrid? (hunits : mantissa * 2 ^ scale = n * unitsOfOne)
    (hgrid : onGrid? mantissa scale grid = some d) :
    d.exponent = grid ∧ n / 10 ^ grid ≤ d.digits ∧ d.digits ≤ n / 10 ^ grid + 1 := by
  have hnearest : n / 10 ^ grid ≤ Rounding.nearest n (10 ^ grid) ∧
      Rounding.nearest n (10 ^ grid) ≤ n / 10 ^ grid + 1 := by
    rw [Rounding.nearest]
    split_ifs <;> omega
  rw [onGrid?_natCast hunits] at hgrid
  split_ifs at hgrid
  · cases hgrid
    exact ⟨rfl, hnearest⟩
  · cases hgrid
    exact ⟨rfl, le_rfl, Nat.le_succ _⟩
  · cases hgrid
    exact ⟨rfl, Nat.le_succ _, le_rfl⟩

variable (h : Canonical mantissa scale) (hunits : mantissa * 2 ^ scale = n * unitsOfOne)

include h hunits

/-- On the grid of all whole numbers the exact one is found. -/
lemma onGrid?_zero (hpos : n ≠ 0) (hlimit : n < 10 ^ 16) :
    onGrid? mantissa scale 0 = some ⟨n, 0⟩ := by
  have hfew : n < 10 ^ 20 := hlimit.trans (by norm_num)
  have hback : readsBack mantissa scale ⟨n, 0⟩ = true := by
    rw [readsBack_iff h, ofDecimal_zero false hpos hfew, ofRatio_whole false h hunits hpos]
  have hnearest : Rounding.nearest n 1 = n := by
    simpa using Rounding.nearest_mul_right n Nat.one_pos
  have hgrid := onGrid?_natCast hunits 0
  simp only [pow_zero, Nat.div_one, Nat.cast_zero, hback, hnearest, if_true, ite_self] at hgrid
  exact hgrid

/-- An even number below `2 ^ 54` is read as no other number. -/
lemma eq_of_ofDecimal_even {half : ℕ} (hpos : n ≠ 0) (hhalf : half < 2 ^ 53)
    (hback : ofDecimal false (2 * half) 0 = .finite false mantissa scale h) : 2 * half = n := by
  have hne := digits_ne_zero hback (mantissa_ne_zero hunits hpos)
  have hfew : 2 * half < 10 ^ 20 := by omega
  have hsame := units?_ofRatio_even false hhalf
  rw [← ofDecimal_zero false hne hfew, hback] at hsame
  have hexact : n * unitsOfOne = 2 * half * unitsOfOne := by
    rw [← hunits]
    exact (Prod.mk.inj (Option.some.inj hsame)).2
  exact (Nat.eq_of_mul_eq_mul_right unitsOfOne_pos hexact).symm

/-- Below `10 ^ 16` no other whole number is found. -/
lemma isWhole_of_onGrid? (hpos : n ≠ 0) (hlimit : n < 10 ^ 16) (hcoarse : grid ≤ 15)
    (hgrid : onGrid? mantissa scale grid = some d) : d.IsWhole n := by
  rcases Nat.eq_zero_or_pos grid with rfl | hgridPos
  · rw [Nat.cast_zero, onGrid?_zero h hunits hpos hlimit] at hgrid
    obtain rfl := Option.some.inj hgrid
    exact ⟨le_rfl, by simp⟩
  · obtain ⟨hexponent, -, hmost⟩ := digits_of_onGrid? hunits hgrid
    have hback := (readsBack_iff h d).1 (readsBack_of_onGrid? hgrid)
    obtain ⟨more, rfl⟩ := Nat.exists_eq_add_of_le' hgridPos
    -- a multiple of ten is even, so the next ones are doubles as well
    obtain ⟨half, hhalf⟩ : ∃ half, d.digits * 10 ^ (more + 1) = 2 * half :=
      ⟨d.digits * 10 ^ more * 5, by ring⟩
    have hvalue : 2 * half ≤ n + 10 ^ 15 := by
      calc 2 * half = d.digits * 10 ^ (more + 1) := hhalf.symm
        _ ≤ (n / 10 ^ (more + 1) + 1) * 10 ^ (more + 1) := Nat.mul_le_mul_right _ hmost
        _ = n / 10 ^ (more + 1) * 10 ^ (more + 1) + 10 ^ (more + 1) := by ring
        _ ≤ n + 10 ^ 15 := Nat.add_le_add (Nat.div_mul_le_self _ _)
          (Nat.pow_le_pow_right (by norm_num) hcoarse)
    rw [hexponent, ← Int.zero_add ((more + 1 : ℕ) : ℤ), ← ofDecimal_mul_pow, hhalf] at hback
    have hexact := eq_of_ofDecimal_even h hunits hpos (by omega) hback
    refine ⟨by omega, ?_⟩
    rw [hexponent, Int.toNat_natCast, hhalf, hexact]

/-- The shortest decimal of a whole number below `10 ^ 16` is exact. -/
theorem isWhole_shortest (hpos : n ≠ 0) (hlimit : n < 10 ^ 16) :
    (shortest mantissa scale).IsWhole n := by
  have hlength : 0 < (Nat.toDigits 10 n).length := Nat.length_toDigits_pos
  have hshort := (Nat.length_toDigits_le_iff (b := 10) (by norm_num) (by norm_num)).2 hlimit
  have hleading := leadingExponent_whole (Nat.pos_of_ne_zero hpos)
  generalize (Nat.toDigits 10 n).length = length at hlength hshort hleading
  have hnum : mantissa * Nat.pow 2 scale = n * unitsOfOne := hunits
  -- the grids of whole numbers come first, and on the last of them there is a decimal
  obtain ⟨finer, hfiner⟩ : ∃ finer, 17 = length + finer := Nat.exists_eq_add_of_le (by omega)
  have hgrid {extra : ℕ} (hextra : extra < length) :
      (length : ℤ) - 1 - extra = ((length - 1 - extra : ℕ) : ℤ) := by omega
  rw [shortest]
  refine Decimal.IsWhole.normalize ?_
  simp only [hnum, hleading]
  rw [hfiner, List.range_add, List.findSome?_append]
  cases hfound : (List.range length).findSome? fun extra : ℕ =>
      onGrid? mantissa scale ((length : ℤ) - 1 - extra) with
  | none =>
    have hlast := List.findSome?_eq_none_iff.1 hfound (length - 1) (List.mem_range.2 (by omega))
    rw [hgrid (by omega), Nat.sub_self, Nat.cast_zero,
      onGrid?_zero h hunits hpos hlimit] at hlast
    cases hlast
  | some d =>
    obtain ⟨extra, hextra, hd⟩ := List.exists_of_findSome?_eq_some hfound
    rw [hgrid (List.mem_range.1 hextra)] at hd
    exact isWhole_of_onGrid? h hunits hpos hlimit (by omega) hd

omit h

/-- What is found on a grid keeps the digits in front of the grid. -/
lemma le_leading_of_onGrid? {extra : ℕ} (hdigits : 10 ^ (extra + grid) ≤ n)
    (hgrid : onGrid? mantissa scale grid = some d) : (extra + grid : ℤ) ≤ d.leading := by
  obtain ⟨hexponent, hleast, -⟩ := digits_of_onGrid? hunits hgrid
  have hkept : 10 ^ extra ≤ d.digits := by
    refine le_trans ?_ hleast
    rwa [Nat.le_div_iff_mul_le (by positivity), ← pow_add]
  have hne : d.digits ≠ 0 := (lt_of_lt_of_le (by positivity) hkept).ne'
  have hlength := (lt_length_toDigits_iff hne).2 hkept
  rw [Decimal.leading, hexponent]
  omega

/-- The leading digit of the shortest decimal of a whole number with more than sixteen digits does
not stand below that of the exact one. -/
theorem le_leading_shortest (hlength : 16 < (Nat.toDigits 10 n).length) :
    ((Nat.toDigits 10 n).length : ℤ) - 1 ≤ (shortest mantissa scale).leading := by
  have hpos : 0 < n := by
    refine Nat.pos_of_ne_zero fun hzero => ?_
    simp [hzero] at hlength
  have hleading := leadingExponent_whole hpos
  have hdigits := lt_length_toDigits_iff (k := (Nat.toDigits 10 n).length - 1) hpos.ne'
  have hnum : mantissa * Nat.pow 2 scale = n * unitsOfOne := hunits
  rw [shortest, Decimal.leading_normalize]
  simp only [hnum, hleading]
  cases hfound : (List.range 17).findSome? fun extra : ℕ =>
      onGrid? mantissa scale (((Nat.toDigits 10 n).length : ℤ) - 1 - extra) with
  | none =>
    -- the exact decimal
    have hexact : n * unitsOfOne * Nat.pow 5 1074 = n * 10 ^ 1074 := by
      rw [ten_pow_unitScale, Nat.mul_assoc]
    rw [Option.getD_none, Decimal.leading, hexact, length_toDigits_mul_pow hpos]
    push_cast
    omega
  | some d =>
    obtain ⟨extra, hextra, hd⟩ := List.exists_of_findSome?_eq_some hfound
    have hfew := List.mem_range.1 hextra
    generalize (Nat.toDigits 10 n).length = length at *
    -- a decimal on a grid of a power of ten, which lies below the leading digit
    obtain ⟨grid, rfl⟩ : ∃ grid, length = extra + grid + 1 := ⟨length - 1 - extra, by omega⟩
    have hgrid : ((extra + grid + 1 : ℕ) : ℤ) - 1 - extra = (grid : ℤ) := by omega
    rw [hgrid] at hd
    have hle := le_leading_of_onGrid? hunits (hdigits.1 (by omega)) hd
    rw [Option.getD_some]
    push_cast
    omega

end Whole

/-- The digits of a shortest decimal do not end in a zero. -/
lemma shortest_mod {mantissa scale : ℕ} (h : Canonical mantissa scale) (hpos : mantissa ≠ 0) :
    (shortest mantissa scale).digits % 10 ≠ 0 := by
  have hmod : (shortest mantissa scale).digits = 0 ∨ (shortest mantissa scale).digits % 10 ≠ 0 := by
    rw [shortest]
    exact Decimal.normalize_mod _
  exact hmod.resolve_left (digits_ne_zero (ofDecimal_shortest false h hpos) hpos)

/-! ### The text of a whole number -/

section Text

variable {mantissa scale n : ℕ}

/-- Below `10 ^ 16` a whole number is written as an integer with a zero behind the point. -/
theorem text_whole (negative : Bool) (h : Canonical mantissa scale)
    (hunits : mantissa * 2 ^ scale = n * unitsOfOne) (hpos : n ≠ 0) (hlimit : n < 10 ^ 16) :
    (Binary64.finite negative mantissa scale h).text = toString (signed negative n) ++ ".0" := by
  have hlayout := Decimal.layout_of_isWhole (isWhole_shortest h hunits hpos hlimit)
    (Nat.pos_of_ne_zero hpos) hlimit
  rw [← String.toList_inj, text, String.toList_ofList, String.toList_append, toList_toString,
    decide_signed_neg negative hpos, natAbs_signed, textList,
    if_neg (mantissa_ne_zero hunits hpos), hlayout]
  cases negative <;> rfl

/-- From `10 ^ 16` on it is written with an exponent. -/
theorem hasExponent_text (negative : Bool) (h : Canonical mantissa scale)
    (hunits : mantissa * 2 ^ scale = n * unitsOfOne) (hleast : 10 ^ 16 ≤ n) :
    HasExponent (Binary64.finite negative mantissa scale h).text.toList := by
  have hpos : n ≠ 0 := by omega
  have hmantissa := mantissa_ne_zero hunits hpos
  have hlength := (lt_length_toDigits_iff hpos).2 hleast
  have hleading := le_leading_shortest hunits hlength
  obtain ⟨first, rest, hfirst, hrest, hlast, hlayout⟩ :=
    Decimal.exists_layout_exponent (by omega) (shortest_mod h hmantissa)
  refine ⟨⟨negative, [first], rest, some (shortest mantissa scale).leading,
    .cons hfirst .nil, by simp, hrest⟩, ?_, rfl, hlast⟩
  rw [text, String.toList_ofList, textList, if_neg hmantissa, hlayout]
  rfl

end Text

end Binary64

end RuleFixtures
