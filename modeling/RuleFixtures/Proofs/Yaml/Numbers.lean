import Mathlib
import RuleFixtures.Proofs.Fixtures.SampleText
import RuleFixtures.Proofs.Number.DecimalText
import RuleFixtures.Proofs.Yaml.Reader

/-!
Numbers are read back.

A finite number is written with a point: digits on both sides of it, and perhaps an exponent with
its sign.

* `exists_parts_floatText` takes the text of a finite number apart.
* `Scalar.readPlain?_floatText`: the text of a number is read as a number, and as the same one.
-/

namespace RuleFixtures.Yaml

open Decimal (parts exponentPart exponentDigits exponentText exponentText_eq digits_exponentDigits)

/-! ### The parts of a number -/

/-- The sign of a number, behind which its digits start. -/
def signText (negative : Bool) : List Char := if negative then ['-'] else []

/-- A text with digits on both sides of a point, which stands for a double. -/
structure IsPointed (negative : Bool) (x : Binary64) (whole fraction : List Char)
    (exponent? : Option ℤ) : Prop where
  digits_whole : Digits whole
  whole_ne_nil : whole ≠ []
  digits_fraction : Digits fraction
  fraction_ne_nil : fraction ≠ []
  value : Binary64.ofDecimal negative (Nat.ofDigitChars 10 (whole ++ fraction) 0)
    (exponent?.getD 0 - fraction.length) = x

/-- A zero behind the point, in front of an exponent without a point before it. -/
def withPoint (s : List Char) : List Char :=
  if s.contains 'e' && !s.contains '.' then
    s.takeWhile (· ≠ 'e') ++ ".0".toList ++ s.dropWhile (· ≠ 'e')
  else s

lemma floatText_finite (negative : Bool) (mantissa scale : ℕ) (h : Canonical mantissa scale) :
    (floatText (.finite negative mantissa scale h)).toList =
      withPoint (Binary64.finite negative mantissa scale h).textList := by
  have htext : floatText (.finite negative mantissa scale h) =
      String.ofList (withPoint (Binary64.finite negative mantissa scale h).textList) := by
    rw [withPoint, apply_ite String.ofList]
    rfl
  rw [htext, String.toList_ofList]

lemma textList_finite (negative : Bool) (mantissa scale : ℕ) (h : Canonical mantissa scale) :
    (Binary64.finite negative mantissa scale h).textList = signText negative ++
      if mantissa = 0 then "0.0".toList else (Binary64.shortest mantissa scale).layout := by
  rw [Binary64.textList]
  generalize (if mantissa = 0 then _ else _ : List Char) = magnitude
  cases negative <;> rfl

/-- The text of a decimal with a point. -/
lemma withPoint_parts (negative : Bool) {whole fraction : List Char} {exponent? : Option ℤ}
    (hwhole : Digits whole) (hexponent : fraction = [] → exponent?.isSome) :
    withPoint (signText negative ++ parts whole fraction exponent?) =
      signText negative ++ parts whole (if fraction = [] then ['0'] else fraction) exponent? := by
  by_cases hpoint : fraction = []
  -- without a fraction there is an exponent, and the point goes in front of its letter
  · obtain ⟨e, rfl⟩ := Option.isSome_iff_exists.1 (hexponent hpoint)
    have hfront : ∀ c ∈ signText negative ++ whole, c ≠ 'e' ∧ c ≠ '.' := by
      refine List.forall_mem_append.2 ⟨?_, fun c hc => hwhole.ne hc⟩
      cases negative <;> simp [signText]
    have htail : ∀ c ∈ exponentText e, c ≠ '.' := by
      rw [exponentText_eq]
      refine List.forall_mem_cons.2 ⟨by split <;> decide, fun c hc => ?_⟩
      exact ((digits_exponentDigits e).1.ne hc).2
    have htext : signText negative ++ parts whole fraction (some e) =
        signText negative ++ whole ++ 'e' :: exponentText e := by
      simp [parts, exponentPart, hpoint]
    have hnoPoint : (signText negative ++ whole ++ 'e' :: exponentText e).contains '.' = false := by
      rw [List.contains_eq_mem, decide_eq_false_iff_not, List.mem_append, List.mem_cons]
      rintro (h | h | h)
      · exact (hfront _ h).2 rfl
      · exact absurd h (by decide)
      · exact htail _ h rfl
    have hletter : (signText negative ++ whole ++ 'e' :: exponentText e).contains 'e' = true := by
      simp
    have hbefore : ∀ c ∈ signText negative ++ whole, decide (c ≠ 'e') = true := fun c hc =>
      decide_eq_true (hfront c hc).1
    rw [htext, withPoint, hnoPoint, hletter, if_pos (by rfl), List.takeWhile_append_of_pos hbefore,
      List.dropWhile_append_of_pos hbefore, List.takeWhile_cons_of_neg (by simp),
      List.dropWhile_cons_of_neg (by simp), if_pos hpoint]
    simp [parts, exponentPart]
  · have hcontains : (signText negative ++ parts whole fraction exponent?).contains '.' = true := by
      simp [parts, hpoint]
    rw [withPoint, hcontains, if_neg (by simp), if_neg hpoint]

/-- A zero behind the point does not change the double. -/
lemma isPointed_of_isText {negative : Bool} {x : Binary64} {d : Decimal}
    {whole fraction : List Char} {exponent? : Option ℤ} (htext : d.IsText whole fraction exponent?)
    (hx : Binary64.ofDecimal negative d.digits d.exponent = x) :
    IsPointed negative x whole (if fraction = [] then ['0'] else fraction) exponent? := by
  have hvalue := htext.value negative
  rw [hx] at hvalue
  split
  · next hnone =>
    refine ⟨htext.digits_whole, htext.whole_ne_nil, by decide, by simp, ?_⟩
    rw [hnone, List.append_nil, List.length_nil] at hvalue
    have hdigits : Nat.ofDigitChars 10 (whole ++ ['0']) 0 = Nat.ofDigitChars 10 whole 0 * 10 := by
      simp [Nat.ofDigitChars_append, Nat.ofDigitChars_cons, Nat.mul_comm]
    rw [← hvalue, hdigits, Binary64.ofDecimal_mul_ten]
    congr 1
    simp
  · next hsome =>
    exact ⟨htext.digits_whole, htext.whole_ne_nil, htext.digits_fraction, hsome, hvalue⟩

/-- The text of a finite number is taken apart. -/
lemma exists_parts_floatText (negative : Bool) (mantissa scale : ℕ) (h : Canonical mantissa scale) :
    ∃ whole fraction exponent?,
      (floatText (.finite negative mantissa scale h)).toList =
        signText negative ++ parts whole fraction exponent? ∧
      IsPointed negative (.finite negative mantissa scale h) whole fraction exponent? := by
  rw [floatText_finite, textList_finite]
  by_cases hzero : mantissa = 0
  · subst hzero
    obtain rfl := h.scale_eq_zero
    refine ⟨['0'], ['0'], none, ?_, by decide, by simp, by decide, by simp, ?_⟩
    · cases negative <;> rfl
    · have hdigits : Nat.ofDigitChars 10 (['0'] ++ ['0']) 0 = 0 := by decide
      rw [hdigits, Binary64.ofDecimal_eq, if_pos rfl]
      rfl
  · obtain ⟨whole, fraction, exponent?, hlayout, htext⟩ :=
      Decimal.exists_parts_layout (Binary64.shortest mantissa scale)
    rw [if_neg hzero, hlayout, withPoint_parts negative htext.digits_whole htext.exponent]
    exact ⟨whole, _, exponent?, rfl,
      isPointed_of_isText htext (Binary64.ofDecimal_shortest negative h hzero)⟩

namespace Scalar

/-! ### Numerals -/

/-- Letters, digits, signs and points have no meaning of their own in the format. -/
lemma isNumeralChar_plain {c : Char} (hc : isNumeralChar c = true) :
    isSpecial c = false ∧ isSpaceOrBreak c = false ∧ c ≠ ':' := by
  obtain ⟨hleast, hmost⟩ := isNumeralChar_bounds hc
  have hne {d : Char} (hd : isNumeralChar d = false) : c ≠ d := by
    rintro rfl
    rw [hc] at hd
    cases hd
  refine ⟨?_, ?_, hne rfl⟩
  · have hprintable : 0x20 ≤ c.toNat ∧ c.toNat ≤ 0x7E := by omega
    have hmark : c.toNat ≠ 0xFEFF := by omega
    simp [isSpecial, hprintable, hmark]
  · have hbreaks : c ≠ '\n' ∧ c ≠ '\x85' ∧ c ≠ '\u2028' ∧ c ≠ '\u2029' :=
      ⟨hne rfl, hne rfl, hne rfl, hne rfl⟩
    have hspaces : c ≠ ' ' ∧ c ≠ '\t' ∧ c ≠ '\r' ∧ c ≠ '\x00' :=
      ⟨hne rfl, hne rfl, hne rfl, hne rfl⟩
    simp [isSpaceOrBreak, isBreak, hbreaks, hspaces]

/-- Digits are numerals. -/
lemma numeral_of_digits {s : List Char} (hs : Digits s) : Numeral s := fun c hc => by
  simp [isNumeralChar, Char.isAlphanum, hs c hc]

lemma any_isSpecial_numeral {s : List Char} (hs : Numeral s) : s.any isSpecial = false :=
  List.any_eq_false.2 fun c hc => by simp [(isNumeralChar_plain (hs c hc)).1]

lemma hasInnerMark_numeral {s : List Char} (hs : Numeral s) : hasInnerMark s = false := by
  induction s with
  | nil => rfl
  | cons c s ih =>
    obtain ⟨hc, hs⟩ := List.forall_mem_cons.1 hs
    obtain ⟨-, hspace, hcolon⟩ := isNumeralChar_plain hc
    simp [hasInnerMark, hspace, hcolon, ih hs]

lemma isSpaceOrBreakEnd_numeral {s : List Char} (hs : Numeral s) :
    isSpaceOrBreakEnd s.head? = false ∧ isSpaceOrBreakEnd s.getLast? = false := by
  have hend {c? : Option Char} (hc : ∀ c ∈ c?, c ∈ s) : isSpaceOrBreakEnd c? = false := by
    cases c? with
    | none => rfl
    | some c =>
      have hspace := (isNumeralChar_plain (hs c (hc c rfl))).2.1
      simp only [isSpaceOrBreak, Bool.or_eq_false_iff] at hspace
      simp [isSpaceOrBreakEnd, hspace]
  exact ⟨hend fun c hc => List.mem_of_mem_head? hc, hend fun c hc => List.mem_of_mem_getLast? hc⟩

/-! ### Reading -/

section Pointed

variable {negative : Bool} {x : Binary64} {whole fraction : List Char} {exponent? : Option ℤ}

/-- What stands behind the sign starts with a digit. -/
lemma exists_digit_parts (h : IsPointed negative x whole fraction exponent?) :
    ∃ digit rest, digit.isDigit = true ∧ parts whole fraction exponent? = digit :: rest := by
  obtain ⟨digit, whole, rfl⟩ := List.exists_cons_of_ne_nil h.whole_ne_nil
  exact ⟨digit, _, h.digits_whole _ List.mem_cons_self, rfl⟩

/-- The sign is told from the digits. -/
lemma signText_append {digit : Char} (hdigit : digit.isDigit = true) (rest : List Char) :
    DecimalReader.splitSign (signText negative ++ digit :: rest) = (negative, digit :: rest) ∧
      Resolve.dropSign (signText negative ++ digit :: rest) = digit :: rest := by
  have hsign : digit ≠ '-' ∧ digit ≠ '+' := ⟨ne_of_isDigit hdigit rfl, ne_of_isDigit hdigit rfl⟩
  cases negative with
  | true => exact ⟨rfl, rfl⟩
  | false => simp [signText, DecimalReader.splitSign, Resolve.dropSign, hsign]

/-- The text is read as the double it stands for. -/
lemma readFloat?_pointed (h : IsPointed negative x whole fraction exponent?) :
    readFloat? (signText negative ++ parts whole fraction exponent?) = some x := by
  have hread := Decimal.readDecimal?_parts negative exponent? h.digits_whole h.whole_ne_nil
    h.digits_fraction
  rw [h.value] at hread
  obtain ⟨digit, rest, hdigit, hparts⟩ := exists_digit_parts h
  have hpoint : digit ≠ '.' := ne_of_isDigit hdigit rfl
  have hnan : signText negative ++ digit :: rest ≠ ".nan".toList := by
    cases negative <;> simp [signText, hpoint]
  have hinf : digit :: rest ≠ ".inf".toList := by simp [hpoint]
  rw [hparts] at hread ⊢
  rw [readFloat?, (signText_append hdigit rest).1]
  simp only [if_neg hnan, if_neg hinf, hread]

lemma isDigitOrLine_of_mem {s : List Char} (hs : Digits s) :
    ∀ c ∈ s, Resolve.isDigitOrLine c = true := fun c hc => by
  rw [Resolve.isDigitOrLine, hs c hc, Bool.true_or]

lemma isDigits_of_digits {s : List Char} (hs : Digits s) (hne : s ≠ []) :
    Resolve.isDigits s = true := by
  obtain ⟨c, s, rfl⟩ := List.exists_cons_of_ne_nil hne
  obtain ⟨hc, hs⟩ := List.forall_mem_cons.1 hs
  rw [Resolve.isDigits, hc, Bool.true_and]
  exact List.all_eq_true.2 (isDigitOrLine_of_mem hs)

lemma isExponent_exponentPart : Resolve.isExponent (exponentPart exponent?) = true := by
  cases exponent? with
  | none => rfl
  | some e =>
    obtain ⟨hdigits, hne⟩ := digits_exponentDigits e
    rw [exponentPart, exponentText_eq, Resolve.isExponent]
    by_cases hneg : e < 0 <;> simp [hneg, hne, List.all_eq_true.2 hdigits]

lemma isFraction_append (hfraction : Digits fraction) :
    Resolve.isFraction (fraction ++ exponentPart exponent?) = true := by
  have hstop :
      (exponentPart exponent?).dropWhile Resolve.isDigitOrLine = exponentPart exponent? := by
    cases exponent? <;> rfl
  rw [Resolve.isFraction, List.dropWhile_append_of_pos (isDigitOrLine_of_mem hfraction), hstop]
  exact isExponent_exponentPart

/-- The text is taken for a number with a point. -/
lemma isFloat_pointed (h : IsPointed negative x whole fraction exponent?) :
    Resolve.isFloat (signText negative ++ parts whole fraction exponent?) = true := by
  obtain ⟨digit, rest, hdigit, hparts⟩ := exists_digit_parts h
  have hdrop : Resolve.dropSign (signText negative ++ digit :: rest) = digit :: rest :=
    (signText_append hdigit rest).2
  rw [← hparts] at hdrop
  have htext :
      parts whole fraction exponent? = whole ++ '.' :: (fraction ++ exponentPart exponent?) := by
    simp [parts, h.fraction_ne_nil]
  have hwhole :
      (whole ++ '.' :: (fraction ++ exponentPart exponent?)).takeWhile (· ≠ '.') = whole := by
    have hbefore : ∀ c ∈ whole, decide (c ≠ '.') = true := fun c hc =>
      decide_eq_true (h.digits_whole.ne hc).2
    rw [List.takeWhile_append_of_pos hbefore, List.takeWhile_cons_of_neg (by simp), List.append_nil]
  rw [Resolve.isFloat, hdrop, htext]
  simp only [hwhole, List.drop_left, isDigits_of_digits h.digits_whole h.whole_ne_nil,
    isFraction_append h.digits_fraction, Bool.and_true, Bool.true_or]

lemma numeral_pointed (h : IsPointed negative x whole fraction exponent?) :
    Numeral (signText negative ++ parts whole fraction exponent?) := by
  have hsign : Numeral (signText negative) := by cases negative <;> decide
  have hexponent : Numeral (exponentPart exponent?) := by
    cases exponent? with
    | none => exact .nil
    | some e => exact .cons (by decide) (Decimal.numeral_exponentText e)
  rw [parts, if_neg h.fraction_ne_nil]
  exact hsign.append ((numeral_of_digits h.digits_whole).append
    ((Numeral.cons (by decide) (numeral_of_digits h.digits_fraction)).append hexponent))

lemma hasLeadingMark_pointed (h : IsPointed negative x whole fraction exponent?) :
    hasLeadingMark (signText negative ++ parts whole fraction exponent?) = false := by
  obtain ⟨digit, rest, hdigit, hparts⟩ := exists_digit_parts h
  have hspace : isSpaceOrBreak digit = false :=
    (isNumeralChar_plain (numeral_of_digits (.cons hdigit .nil) _ List.mem_cons_self)).2.1
  have hmarks : "#,[]\x7b\x7d&*!|>'\"%@\x60".toList.contains digit = false := by
    have hno : "#,[]\x7b\x7d&*!|>'\"%@\x60".toList.all (fun d => !d.isDigit) = true := by decide
    rw [List.contains_eq_mem, decide_eq_false_iff_not]
    intro hmem
    have hnot := List.all_eq_true.1 hno digit hmem
    rw [hdigit] at hnot
    cases hnot
  have hdash : digit ≠ '-' := ne_of_isDigit hdigit rfl
  have hpoint : digit ≠ '.' := ne_of_isDigit hdigit rfl
  have hquestion : digit ≠ '?' := ne_of_isDigit hdigit rfl
  rw [hparts]
  -- a minus is no mark if something other than a blank follows
  cases negative with
  | true =>
    change hasLeadingMark ('-' :: digit :: rest) = false
    rw [hasLeadingMark]
    · simp [endsWord, hspace]
    · simp [hdash]
    · simp
  | false =>
    change hasLeadingMark (digit :: rest) = false
    rw [hasLeadingMark, hmarks]
    · simp [hdash, hquestion]
    · simp [hdash]
    · simp [hpoint]

end Pointed

/-- Numbers are written in letters, digits, signs and points. -/
lemma numeral_floatText (x : Binary64) : Numeral (floatText x).toList := by
  cases x with
  | nan => decide
  | infinite negative => cases negative <;> decide
  | finite negative mantissa scale h =>
    obtain ⟨whole, fraction, exponent?, htext, hpointed⟩ :=
      exists_parts_floatText negative mantissa scale h
    rw [htext]
    exact numeral_pointed hpointed

/-- The text of a number is read as the number. -/
theorem readPlain?_floatText (x : Binary64) :
    readPlain? (floatText x).toList = some (.float x) := by
  cases x with
  | nan => decide +kernel
  | infinite negative => cases negative <;> decide +kernel
  | finite negative mantissa scale h =>
    obtain ⟨whole, fraction, exponent?, htext, hpointed⟩ :=
      exists_parts_floatText negative mantissa scale h
    have hnumeral := numeral_pointed hpointed
    have hfloat := isFloat_pointed hpointed
    have hnotText :
        Resolve.isText (signText negative ++ parts whole fraction exponent?) = false := by
      simp [Resolve.isText, hfloat]
    have hends := isSpaceOrBreakEnd_numeral hnumeral
    rw [htext, readPlain?, any_isSpecial_numeral hnumeral, hasLeadingMark_pointed hpointed,
      hasInnerMark_numeral hnumeral, hends.1, hends.2, hnotText, hfloat,
      readFloat?_pointed hpointed]
    rfl

end Scalar

end RuleFixtures.Yaml
