import RuleFixtures.Number.DecimalReader
import RuleFixtures.Number.Order
import RuleFixtures.Proofs.Fixtures.SampleText
import RuleFixtures.Proofs.Number.DecimalText
import RuleFixtures.Proofs.Text.Split

/-!
Reading sample values back.

* `Binary64.readPlain?_textList`: the text of a double is read as the double.
* `Binary64.readPlain?_toString`: the text of an integer is read as the double nearest to it.
* `Binary64.read?_of_numeral`: a numeral is read as it stands, for it has neither blanks nor
  underscores.
* `Binary64.SameNumber` holds of equal numbers, zeros of either sign among them, and of what is not
  a number on both sides.
* `SampleText.write_whole`: how the text of a whole number is made.
* `SampleText.exists_read?_write`: the text of a sample value is read as the same number.
-/

namespace RuleFixtures

/-! ### Characters -/

namespace Text

/-- A text in ASCII stays when digits are written in ASCII. -/
lemma foldDigits_of_ascii {s : List Char} (h : ∀ c ∈ s, c.toNat < 0x80) : foldDigits s = s := by
  refine (List.map_congr_left fun c hc => ?_).trans (List.map_id s)
  rw [decimalValue?, if_pos (h c hc)]
  by_cases hdigit : c.isDigit = true
  · have hleast : 0x30 ≤ c.toNat := by
      simp only [Char.isDigit, Bool.and_eq_true, decide_eq_true_eq, ge_iff_le,
        UInt32.le_iff_toNat_le] at hdigit
      exact hdigit.1
    simp [hdigit, digitChar, Nat.add_sub_cancel' hleast]
  · simp [hdigit]

end Text

namespace DecimalReader

/-- Without underscores nothing is taken away. -/
lemma dropUnderscores?_of_notMem {previous : Char} {s : List Char} (hprevious : previous ≠ '_')
    (hs : '_' ∉ s) : dropUnderscores? previous s = some s := by
  induction s generalizing previous with
  | nil => simp [dropUnderscores?, hprevious]
  | cons c rest ih =>
    rw [List.mem_cons, not_or] at hs
    have hc : c ≠ '_' := Ne.symm hs.1
    simp [dropUnderscores?, hc, hprevious, ih hc hs.2]

end DecimalReader

namespace Binary64

open Decimal (parts exponentPart)

/-! ### Plain texts -/

lemma toLower_of_isDigit {digit : Char} (h : digit.isDigit = true) : digit.toLower = digit := by
  unfold Char.toLower
  split
  · next hupper =>
    simp only [Char.isDigit, Bool.and_eq_true, decide_eq_true_eq, ge_iff_le,
      UInt32.le_iff_toNat_le] at h
    simp [UInt32.le_iff_toNat_le] at h hupper
    omega
  · rfl

/-- A text that starts with a digit is no word. -/
lemma readPlain?_digit {digit : Char} (hdigit : digit.isDigit = true) (rest : List Char)
    (negative : Bool) :
    readPlain? (if negative then '-' :: digit :: rest else digit :: rest) =
      DecimalReader.readDecimal? negative (digit :: rest) := by
  have hsign : digit ≠ '-' ∧ digit ≠ '+' := ⟨ne_of_isDigit hdigit rfl, ne_of_isDigit hdigit rfl⟩
  have hword : digit ≠ 'i' ∧ digit ≠ 'n' := ⟨ne_of_isDigit hdigit rfl, ne_of_isDigit hdigit rfl⟩
  cases negative <;>
    simp [readPlain?, DecimalReader.splitSign, toLower_of_isDigit hdigit, hsign, hword]

/-- Digits, a point with digits behind it and an exponent are read as the double nearest to what
they stand for. -/
lemma readPlain?_parts (negative : Bool) {whole fraction : List Char} (exponent? : Option ℤ)
    (hwhole : Digits whole) (hne : whole ≠ []) (hfraction : Digits fraction) :
    readPlain? (if negative then '-' :: parts whole fraction exponent?
        else parts whole fraction exponent?) =
      some (.ofDecimal negative (Nat.ofDigitChars 10 (whole ++ fraction) 0)
        (exponent?.getD 0 - fraction.length)) := by
  rw [← Decimal.readDecimal?_parts negative exponent? hwhole hne hfraction]
  obtain ⟨digit, rest, rfl⟩ := List.exists_cons_of_ne_nil hne
  exact readPlain?_digit (hwhole digit List.mem_cons_self) _ negative

/-- The text of a double is read as the double. -/
theorem readPlain?_textList (x : Binary64) : readPlain? x.textList = some x := by
  cases x with
  | nan => rfl
  | infinite negative => cases negative <;> rfl
  | finite negative mantissa scale h =>
    by_cases hzero : mantissa = 0
    · subst hzero
      obtain rfl := h.scale_eq_zero
      cases negative <;> rfl
    · obtain ⟨whole, fraction, exponent?, hlayout, htext⟩ :=
        Decimal.exists_parts_layout (shortest mantissa scale)
      rw [textList, if_neg hzero, hlayout,
        readPlain?_parts negative exponent? htext.digits_whole htext.whole_ne_nil
          htext.digits_fraction,
        htext.value, ofDecimal_shortest negative h hzero]

/-- The text of an integer is read as the double nearest to it. -/
theorem readPlain?_toString (n : ℤ) :
    readPlain? (toString n).toList = some (.ofDecimal (decide (n < 0)) n.natAbs 0) := by
  have hparts : parts (Nat.toDigits 10 n.natAbs) [] none = Nat.toDigits 10 n.natAbs := by
    simp [parts, exponentPart]
  have hread := readPlain?_parts (decide (n < 0)) none (Digits.toDigits n.natAbs)
    Nat.toDigits_ne_nil Digits.nil
  rw [hparts] at hread
  rw [toList_toString, hread]
  simp

/-! ### Numerals -/

/-- A numeral has neither blanks nor underscores, and its digits are those of ASCII. -/
lemma plainText?_of_numeral {text : String} (h : Numeral text.toList) :
    DecimalReader.plainText? text = some text.toList := by
  have hascii : ∀ c ∈ text.toList, c.toNat < 0x80 := by
    intro c hc
    have hbounds := isNumeralChar_bounds (h c hc)
    omega
  have hkept : (text.toList.map fun c =>
      if 0x80 ≤ c.toNat && Text.isBlank c then ' ' else c) = text.toList := by
    refine (List.map_congr_left fun c hc => ?_).trans (List.map_id _)
    simp [not_le.2 (hascii c hc)]
  have hblank : ∀ c ∈ text.toList, Text.isAsciiBlank c = false := by
    intro c hc
    have hbounds := isNumeralChar_bounds (h c hc)
    have hspace : c ≠ ' ' := by
      rintro rfl
      exact absurd hbounds.1 (by decide)
    have hcontrol : ¬ c.toNat ≤ 13 := by omega
    simp [Text.isAsciiBlank, hspace, hcontrol]
  have hline : '_' ∉ text.toList := fun hmem => absurd (h '_' hmem) (by decide)
  rw [DecimalReader.plainText?, Text.foldDigits_of_ascii hascii, hkept,
    Text.trimList_eq_self hblank]
  exact DecimalReader.dropUnderscores?_of_notMem (by decide) hline

lemma read?_of_numeral {text : String} (h : Numeral text.toList) :
    read? text = readPlain? text.toList := by
  rw [read?, plainText?_of_numeral h, Option.bind_some]

/-! ### Equal numbers -/

/-- Both are not a number, or they are equal as numbers. -/
def SameNumber (x y : Binary64) : Prop := x.isNaN = true ∧ y.isNaN = true ∨ x.numEq y = true

lemma SameNumber.refl (x : Binary64) : x.SameNumber x := by
  cases hnan : x.isNaN with
  | true => exact .inl ⟨hnan, hnan⟩
  | false =>
    have hle : x.le x = true := (le_iff_rank_le hnan hnan).2 le_rfl
    exact .inr (by rw [numEq, hle]; rfl)

end Binary64

namespace SampleText

/-- The text of a finite number: whole numbers that are not too large are written as integers. -/
lemma write_finite (negative : Bool) (mantissa scale : ℕ) (h : Canonical mantissa scale) :
    write (.finite negative mantissa scale h) =
      if mantissa * Nat.pow 2 scale % Binary64.unitsOfOne = 0 ∧
          mantissa * Nat.pow 2 scale / Binary64.unitsOfOne < wholeLimit then
        toString (Binary64.signed negative (mantissa * Nat.pow 2 scale / Binary64.unitsOfOne))
      else (Binary64.finite negative mantissa scale h).text := by
  have hwhole : (Binary64.finite negative mantissa scale h).truncate? =
      some (Binary64.signed negative (mantissa * Nat.pow 2 scale / Binary64.unitsOfOne)) := rfl
  have hintegral : (Binary64.finite negative mantissa scale h).isIntegral =
      decide (mantissa * Nat.pow 2 scale % Binary64.unitsOfOne = 0) := rfl
  simp only [write, hwhole, hintegral, Option.getD_some, Binary64.natAbs_signed, Bool.and_eq_true,
    decide_eq_true_eq]

/-- The text of a whole number. -/
lemma write_whole (negative : Bool) {mantissa scale n : ℕ} (h : Canonical mantissa scale)
    (hunits : mantissa * 2 ^ scale = n * Binary64.unitsOfOne) :
    write (.finite negative mantissa scale h) =
      if n < 10 ^ 15 then toString (Binary64.signed negative n)
      else (Binary64.finite negative mantissa scale h).text := by
  have hnum : mantissa * Nat.pow 2 scale = n * Binary64.unitsOfOne := hunits
  rw [write_finite, hnum, Nat.mul_mod_left, Nat.mul_div_cancel _ Binary64.unitsOfOne_pos]
  simp only [true_and]
  rfl

/-- The integer of a whole number is read as the same number. -/
lemma exists_readPlain?_whole {negative : Bool} {mantissa scale n : ℕ}
    (h : Canonical mantissa scale) (hunits : mantissa * 2 ^ scale = n * Binary64.unitsOfOne)
    (hlimit : n < wholeLimit) :
    ∃ x, Binary64.readPlain? (toString (Binary64.signed negative n)).toList = some x ∧
      x.SameNumber (.finite negative mantissa scale h) := by
  rw [Binary64.readPlain?_toString]
  rcases Nat.eq_zero_or_pos n with rfl | hpos
  · -- zeros lose their sign
    have hmantissa : mantissa = 0 := by
      have hpow : 2 ^ scale ≠ 0 := by positivity
      simpa [hpow] using hunits
    subst hmantissa
    obtain rfl := h.scale_eq_zero
    have hzeros : (Binary64.ofDecimal (decide (Binary64.signed negative 0 < 0))
        (Binary64.signed negative 0).natAbs 0).numEq (Binary64.zero negative) = true := by
      cases negative <;> rfl
    exact ⟨_, rfl, .inr hzeros⟩
  · have hfew : n < 10 ^ 20 := lt_trans hlimit (by decide)
    rw [Binary64.decide_signed_neg negative hpos.ne', Binary64.natAbs_signed,
      Binary64.ofDecimal_zero negative hpos.ne' hfew,
      Binary64.ofRatio_whole negative h hunits hpos.ne']
    exact ⟨_, rfl, .refl _⟩

/-- The text of a sample value is read as the same number. -/
theorem exists_read?_write (value : Binary64) :
    ∃ x, Binary64.read? (write value) = some x ∧ x.SameNumber value := by
  rw [Binary64.read?_of_numeral (numeral_write value)]
  cases value with
  | nan => exact ⟨.nan, rfl, .refl _⟩
  | infinite negative => exact ⟨.infinite negative, by cases negative <;> rfl, .refl _⟩
  | finite negative mantissa scale h =>
    rw [write_finite]
    split_ifs with hwhole
    · obtain ⟨hintegral, hlimit⟩ := hwhole
      refine exists_readPlain?_whole h ?_ hlimit
      exact (Nat.div_mul_cancel (Nat.dvd_of_mod_eq_zero hintegral)).symm
    · rw [Binary64.text, String.toList_ofList]
      exact ⟨_, Binary64.readPlain?_textList _, .refl _⟩

end SampleText

end RuleFixtures
