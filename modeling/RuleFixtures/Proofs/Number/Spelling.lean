import RuleFixtures.Proofs.Number.DecimalText

/-!
The spellings of numbers.

A number is written with a minus or without, with digits, with a point and more digits if there are
any, and with an exponent or without. A text has one spelling at most, so what is said of the
spelling is said of the text.

* `Spelling.text_injective`: the spelling is read off the text.
* `HasZeroFraction` holds of texts with zeros alone behind a point, and `HasExponent` of those with
  an exponent and no zero at the end of the digits in front of it that stand behind a point.
-/

namespace RuleFixtures

open Decimal (parts exponentPart)

/-- What the text of a number is put together from. -/
@[ext]
structure Spelling where
  negative : Bool
  whole : List Char
  fraction : List Char
  exponent? : Option ℤ
  digits_whole : Digits whole
  whole_ne_nil : whole ≠ []
  digits_fraction : Digits fraction

namespace Spelling

/-- The text with this spelling. -/
def text (s : Spelling) : List Char :=
  if s.negative then '-' :: parts s.whole s.fraction s.exponent?
  else parts s.whole s.fraction s.exponent?

/-- The sign is told from the digits. -/
lemma splitSign_text (s : Spelling) :
    DecimalReader.splitSign s.text = (s.negative, parts s.whole s.fraction s.exponent?) := by
  obtain ⟨digit, rest, hwhole⟩ := List.exists_cons_of_ne_nil s.whole_ne_nil
  have hdigit : digit.isDigit = true := s.digits_whole digit (by simp [hwhole])
  have hsign : digit ≠ '-' ∧ digit ≠ '+' := ⟨ne_of_isDigit hdigit rfl, ne_of_isDigit hdigit rfl⟩
  rw [text, hwhole]
  cases s.negative <;> simp [parts, DecimalReader.splitSign, hsign]

/-- An exponent is read off its text. -/
lemma exponentPart_injective : Function.Injective exponentPart := by
  intro e e' h
  cases e with
  | none =>
    cases e' with
    | none => rfl
    | some e' => cases h
  | some e =>
    cases e' with
    | none => cases h
    | some e' =>
      rw [← Decimal.readInt?_exponentText e, ← Decimal.readInt?_exponentText e',
        (List.cons.inj h).2]

/-- A text has one spelling at most. -/
theorem text_injective : Function.Injective text := by
  intro s t h
  have hsign : (s.negative, parts s.whole s.fraction s.exponent?) =
      (t.negative, parts t.whole t.fraction t.exponent?) := by
    rw [← splitSign_text, ← splitSign_text, h]
  have hsplit : (s.whole, s.fraction, exponentPart s.exponent?) =
      (t.whole, t.fraction, exponentPart t.exponent?) := by
    rw [← Decimal.splitDecimal_parts _ s.digits_whole s.digits_fraction,
      ← Decimal.splitDecimal_parts _ t.digits_whole t.digits_fraction, (Prod.mk.inj hsign).2]
  obtain ⟨hwhole, hrest⟩ := Prod.mk.inj hsplit
  obtain ⟨hfraction, hexponent⟩ := Prod.mk.inj hrest
  exact Spelling.ext (Prod.mk.inj hsign).1 hwhole hfraction (exponentPart_injective hexponent)

/-- The spelling of an integer, with digits behind a point if there are any. -/
def ofInt (n : ℤ) (fraction : List Char) (hfraction : Digits fraction) : Spelling where
  negative := decide (n < 0)
  whole := Nat.toDigits 10 n.natAbs
  fraction := fraction
  exponent? := none
  digits_whole := Digits.toDigits _
  whole_ne_nil := Nat.toDigits_ne_nil
  digits_fraction := hfraction

lemma text_ofInt (n : ℤ) {fraction : List Char} (hfraction : Digits fraction) :
    (ofInt n fraction hfraction).text =
      (toString n).toList ++ if fraction = [] then [] else '.' :: fraction := by
  rw [toList_toString, text]
  cases hsign : decide (n < 0) <;> simp [ofInt, parts, exponentPart, hsign]

end Spelling

/-- A text with a point and zeros alone behind it. -/
def HasZeroFraction (text : List Char) : Prop :=
  ∃ s : Spelling, s.text = text ∧ s.fraction ≠ [] ∧ ∀ c ∈ s.fraction, c = '0'

/-- A text with an exponent; if there is a point, the last digit behind it is no zero. -/
def HasExponent (text : List Char) : Prop :=
  ∃ s : Spelling, s.text = text ∧ s.exponent?.isSome ∧ s.fraction.getLast? ≠ some '0'

lemma HasExponent.not_hasZeroFraction {text : List Char} (h : HasExponent text) :
    ¬ HasZeroFraction text := by
  rintro ⟨s, hs, hne, hzeros⟩
  obtain ⟨t, ht, -, hlast⟩ := h
  obtain rfl := Spelling.text_injective (hs.trans ht.symm)
  refine hlast ?_
  rw [List.getLast?_eq_some_getLast hne, hzeros _ (List.getLast_mem hne)]

/-! ### The texts of integers -/

section Integers

variable (n : ℤ)

lemma text_ofInt_nil : (Spelling.ofInt n [] .nil).text = (toString n).toList := by
  rw [Spelling.text_ofInt, if_pos rfl, List.append_nil]

lemma not_hasZeroFraction_toString : ¬ HasZeroFraction (toString n).toList := by
  rintro ⟨s, hs, hne, -⟩
  obtain rfl := Spelling.text_injective (hs.trans (text_ofInt_nil n).symm)
  exact hne rfl

lemma not_hasExponent_toString : ¬ HasExponent (toString n).toList := by
  rintro ⟨s, hs, hsome, -⟩
  obtain rfl := Spelling.text_injective (hs.trans (text_ofInt_nil n).symm)
  cases hsome

lemma hasZeroFraction_toString_append : HasZeroFraction (toString n ++ ".0").toList := by
  refine ⟨Spelling.ofInt n ['0'] (by decide), ?_, by simp [Spelling.ofInt],
    by simp [Spelling.ofInt]⟩
  rw [Spelling.text_ofInt, String.toList_append]
  rfl

end Integers

end RuleFixtures
