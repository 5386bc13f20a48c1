import RuleFixtures.Proofs.Number.Decimal

/-!
The text of a double is not long.

The decimal that writes a double has no more digits behind the point than the exact value of the
double, and its first digit stands where a double has its first digit.

* `Decimal.length_layout_le` bounds the text of a decimal by the places of its first digit and its
  last.
* `Binary64.length_text_le`: the text of a double has at most fifteen hundred characters.
-/

namespace RuleFixtures

namespace Decimal

/-- Zeros that are moved make the exponent greater. -/
lemma exponent_le_normalize (d : Decimal) : d.exponent ≤ d.normalize.exponent := by
  fun_induction normalize d with
  | case1 d hzero ih => exact (Int.le_add_one le_rfl).trans ih
  | case2 d hdone => exact le_rfl

lemma length_exponentText_le {e : ℤ} (h : e.natAbs < 1000) : (exponentText e).length ≤ 4 := by
  have hdigits : (Nat.toDigits 10 e.natAbs).length ≤ 3 :=
    (Nat.length_toDigits_le_iff (by norm_num) (by norm_num)).2 h
  rw [exponentText, List.length_cons]
  split
  · rw [List.length_cons]
    omega
  · omega

lemma length_layout_le {d : Decimal} (hleast : -1074 ≤ d.exponent)
    (hlow : -330 ≤ ((Nat.toDigits 10 d.digits).length : ℤ) + d.exponent)
    (hhigh : ((Nat.toDigits 10 d.digits).length : ℤ) + d.exponent ≤ 310) :
    d.layout.length ≤ 1400 := by
  have hexponent : (exponentText (((Nat.toDigits 10 d.digits).length : ℤ) - 1 + d.exponent)).length
      ≤ 4 := length_exponentText_le (by omega)
  rw [layout]
  generalize Nat.toDigits 10 d.digits = digits at *
  split_ifs
  · split
    · simp
    · simp only [List.length_cons, List.length_nil] at hexponent ⊢
      omega
    · simp only [List.length_cons, List.length_append] at hexponent hhigh ⊢
      omega
  · simp only [List.length_append, List.length_replicate, List.length_cons, List.length_nil]
    omega
  · rw [List.length_append, List.length_cons, List.length_take, List.length_drop]
    omega
  · simp only [List.length_append, List.length_cons, List.length_replicate]
    omega

end Decimal

namespace Binary64

/-- The decimal that writes a double has no place behind those of its exact value. -/
lemma le_exponent_shortest (mantissa scale : ℕ) : -1074 ≤ (shortest mantissa scale).exponent := by
  rw [shortest]
  refine le_trans ?_ (Decimal.exponent_le_normalize _)
  cases hfound : (List.range 17).findSome? fun extra : ℕ =>
      onGrid? mantissa scale (leadingExponent (mantissa * Nat.pow 2 scale) - extra) with
  | none => exact le_rfl
  | some d =>
    obtain ⟨extra, hextra, hgrid⟩ := List.exists_of_findSome?_eq_some hfound
    rw [List.mem_range] at hextra
    have hexponent : d.exponent = leadingExponent (mantissa * Nat.pow 2 scale) - extra := by
      rw [onGrid?] at hgrid
      split at hgrid <;> cases hgrid <;> rfl
    rw [Option.getD_some, hexponent, leadingExponent]
    omega

lemma length_layout_shortest_le {mantissa scale : ℕ} (h : Canonical mantissa scale)
    (hpos : mantissa ≠ 0) : (shortest mantissa scale).layout.length ≤ 1400 := by
  -- a decimal with its first digit further out would be read as infinite or as zero
  have hfinite := ofDecimal_shortest false h hpos
  rw [ofDecimal_eq] at hfinite
  split_ifs at hfinite with hzero hlarge hsmall
  · cases hfinite
    exact absurd rfl hpos
  · cases hfinite
    exact absurd rfl hpos
  · exact Decimal.length_layout_le (le_exponent_shortest mantissa scale) (not_lt.1 hsmall)
      (not_lt.1 hlarge)

/-- The text of a double is not long. -/
theorem length_text_le (x : Binary64) : x.text.length ≤ 1500 := by
  rw [text, String.length_ofList]
  cases x with
  | nan => decide
  | infinite negative => cases negative <;> decide
  | finite negative mantissa scale h =>
    rw [textList]
    by_cases hpos : mantissa = 0
    · rw [if_pos hpos]
      cases negative <;> simp
    · have hlength := length_layout_shortest_le h hpos
      rw [if_neg hpos]
      cases negative
      · rw [if_neg Bool.false_ne_true]
        omega
      · rw [if_pos rfl, List.length_cons]
        omega

end Binary64

end RuleFixtures
