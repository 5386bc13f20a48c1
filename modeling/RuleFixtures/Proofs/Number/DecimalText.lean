import RuleFixtures.Proofs.Number.Decimal

/-!
The texts of decimals.

* `Decimal.parts` puts a text together from the digits in front of the point, those behind it and
  the exponent; `readDecimal?_parts` reads it.
* `exists_parts_layout`: the layout of a decimal is such a text, and stands for the same doubles.
-/

namespace RuleFixtures

lemma ne_of_isDigit {digit c : Char} (hdigit : digit.isDigit = true) (hc : c.isDigit = false) :
    digit ≠ c := by
  rintro rfl
  rw [hdigit] at hc
  cases hc

/-- A run of decimal digits. -/
def Digits (s : List Char) : Prop := ∀ c ∈ s, c.isDigit = true

instance : DecidablePred Digits := fun s =>
  decidable_of_iff (s.all Char.isDigit = true) List.all_eq_true

namespace Digits

variable {s t : List Char}

lemma nil : Digits [] := by simp [Digits]

lemma cons {c : Char} (hc : c.isDigit = true) (hs : Digits s) : Digits (c :: s) :=
  List.forall_mem_cons.2 ⟨hc, hs⟩

lemma append (hs : Digits s) (ht : Digits t) : Digits (s ++ t) :=
  List.forall_mem_append.2 ⟨hs, ht⟩

lemma of_subset (ht : Digits t) (h : s ⊆ t) : Digits s := fun c hc => ht c (h hc)

lemma toDigits (n : ℕ) : Digits (Nat.toDigits 10 n) := fun _ hc =>
  Nat.isDigit_of_mem_toDigits (by norm_num) (by norm_num) hc

lemma zeros (n : ℕ) : Digits (List.replicate n '0') := by
  intro c hc
  rw [List.eq_of_mem_replicate hc]
  rfl

/-- Neither the point nor the letter of an exponent is a digit. -/
lemma ne (hs : Digits s) {c : Char} (hc : c ∈ s) : c ≠ 'e' ∧ c ≠ '.' :=
  ⟨ne_of_isDigit (hs c hc) rfl, ne_of_isDigit (hs c hc) rfl⟩

/-- Digits end in front of what is no digit. -/
lemma span (hs : Digits s) (hrest : ∀ c ∈ t.head?, c.isDigit = false) :
    (s ++ t).takeWhile Char.isDigit = s ∧ (s ++ t).dropWhile Char.isDigit = t := by
  have hstop : t.takeWhile Char.isDigit = [] ∧ t.dropWhile Char.isDigit = t := by
    cases t with
    | nil => exact ⟨rfl, rfl⟩
    | cons c rest =>
      have hc : c.isDigit = false := hrest c rfl
      exact ⟨List.takeWhile_cons_of_neg (by simp [hc]), List.dropWhile_cons_of_neg (by simp [hc])⟩
  rw [List.takeWhile_append_of_pos hs, List.dropWhile_append_of_pos hs, hstop.1, hstop.2,
    List.append_nil]
  exact ⟨rfl, rfl⟩

end Digits

/-- The text of an integer: its digits, behind a minus if it is negative. -/
lemma toList_toString (n : ℤ) : (toString n).toList =
    if decide (n < 0) then '-' :: Nat.toDigits 10 n.natAbs else Nat.toDigits 10 n.natAbs := by
  cases n with
  | ofNat m =>
    rw [show toString (Int.ofNat m) = Nat.repr m from rfl, Nat.toList_repr]
    rfl
  | negSucc m =>
    rw [show toString (Int.negSucc m) = "-" ++ Nat.repr (m + 1) from rfl, String.toList_append,
      Nat.toList_repr]
    simp [Int.negSucc_lt_zero]

namespace Decimal

/-- Nothing, or the letter and the text of an exponent. -/
def exponentPart : Option ℤ → List Char
  | none => []
  | some e => 'e' :: exponentText e

/-- Digits, a point and more digits if there are any, and an exponent. -/
def parts (whole fraction : List Char) (exponent? : Option ℤ) : List Char :=
  whole ++ ((if fraction = [] then [] else '.' :: fraction) ++ exponentPart exponent?)

lemma head?_exponentPart (exponent? : Option ℤ) :
    ∀ c ∈ (exponentPart exponent?).head?, c = 'e' := by
  cases exponent? with
  | none => simp [exponentPart]
  | some e => simp [exponentPart]

/-- The digits of an exponent, at least two. -/
def exponentDigits (e : ℤ) : List Char :=
  if (Nat.toDigits 10 e.natAbs).length < 2 then '0' :: Nat.toDigits 10 e.natAbs
  else Nat.toDigits 10 e.natAbs

lemma exponentText_eq (e : ℤ) :
    exponentText e = (if e < 0 then '-' else '+') :: exponentDigits e := rfl

lemma digits_exponentDigits (e : ℤ) : Digits (exponentDigits e) ∧ exponentDigits e ≠ [] := by
  have hdigits := Digits.toDigits e.natAbs
  rw [exponentDigits]
  split
  · exact ⟨.cons rfl hdigits, List.cons_ne_nil _ _⟩
  · exact ⟨hdigits, Nat.toDigits_ne_nil⟩

lemma ofDigitChars_exponentDigits (e : ℤ) :
    Nat.ofDigitChars 10 (exponentDigits e) 0 = e.natAbs := by
  rw [exponentDigits]
  split <;> simp [Nat.ofDigitChars_cons]

/-- An exponent is read as it is written. -/
lemma readInt?_exponentText (e : ℤ) : DecimalReader.readInt? (exponentText e) = some e := by
  obtain ⟨hdigits, hne⟩ := digits_exponentDigits e
  have hnat : DecimalReader.readNat? (exponentDigits e) = some e.natAbs := by
    rw [DecimalReader.readNat?, ofDigitChars_exponentDigits]
    simp [hne, List.all_eq_true.2 hdigits]
  rw [exponentText_eq, DecimalReader.readInt?]
  by_cases hneg : e < 0
  · have hvalue : -(e.natAbs : ℤ) = e := by omega
    simpa [hneg, DecimalReader.splitSign, hnat] using hvalue
  · have hvalue : (e.natAbs : ℤ) = e := by omega
    simpa [hneg, DecimalReader.splitSign, hnat] using hvalue

/-- The digits on both sides of the point, and what follows. -/
lemma splitDecimal_parts {whole fraction : List Char} (exponent? : Option ℤ)
    (hwhole : Digits whole) (hfraction : Digits fraction) :
    DecimalReader.splitDecimal (parts whole fraction exponent?) =
      (whole, fraction, exponentPart exponent?) := by
  have htail : ∀ c ∈ (exponentPart exponent?).head?, c.isDigit = false := by
    intro c hc
    rw [head?_exponentPart exponent? c hc]
    rfl
  -- without a fraction there is no point, and what follows starts with none either
  by_cases hpoint : fraction = []
  · obtain ⟨htake, hdrop⟩ := hwhole.span htail
    have hnoPoint : ∀ tail, exponentPart exponent? ≠ '.' :: tail := by
      intro tail h
      have := head?_exponentPart exponent? '.' (by rw [h]; rfl)
      exact absurd this (by decide)
    rw [parts, if_pos hpoint, List.nil_append, DecimalReader.splitDecimal, htake, hdrop, hpoint]
    split
    · next h => exact absurd h (hnoPoint _)
    · rfl
  · obtain ⟨htake, hdrop⟩ := hwhole.span (t := '.' :: (fraction ++ exponentPart exponent?))
      (by simp)
    obtain ⟨htakeFraction, hdropFraction⟩ := hfraction.span htail
    rw [parts, if_neg hpoint, List.cons_append, DecimalReader.splitDecimal, htake, hdrop]
    simp only [htakeFraction, hdropFraction]

/-- What is put together is read as the double nearest to it. -/
theorem readDecimal?_parts (negative : Bool) {whole fraction : List Char} (exponent? : Option ℤ)
    (hwhole : Digits whole) (hne : whole ≠ []) (hfraction : Digits fraction) :
    DecimalReader.readDecimal? negative (parts whole fraction exponent?) =
      some (.ofDecimal negative (Nat.ofDigitChars 10 (whole ++ fraction) 0)
        (exponent?.getD 0 - fraction.length)) := by
  rw [DecimalReader.readDecimal?, splitDecimal_parts exponent? hwhole hfraction]
  have hsome : (whole.isEmpty && fraction.isEmpty) = false := by simp [hne]
  simp only [hsome, Bool.false_eq_true, if_false]
  cases exponent? with
  | none => rfl
  | some e => simp [exponentPart, readInt?_exponentText]

/-! ### Layouts -/

/-- The text is put together from digits, at least one in front of the point, and without digits
behind it there is an exponent; it stands for the same doubles as the decimal. -/
structure IsText (d : Decimal) (whole fraction : List Char) (exponent? : Option ℤ) : Prop where
  digits_whole : Digits whole
  whole_ne_nil : whole ≠ []
  digits_fraction : Digits fraction
  exponent : fraction = [] → exponent?.isSome
  value : ∀ negative, Binary64.ofDecimal negative (Nat.ofDigitChars 10 (whole ++ fraction) 0)
    (exponent?.getD 0 - fraction.length) = .ofDecimal negative d.digits d.exponent

section Layout

variable (d : Decimal)

lemma ofDigitChars_toDigits : Nat.ofDigitChars 10 (Nat.toDigits 10 d.digits) 0 = d.digits := by simp

/-- The first digit, the others behind the point, and the exponent of the first one. -/
lemma isText_leading {c : Char} {rest : List Char} (h : Nat.toDigits 10 d.digits = c :: rest) :
    d.IsText [c] rest (some (((c :: rest).length : ℤ) - 1 + d.exponent)) := by
  obtain ⟨hc, hrest⟩ := List.forall_mem_cons.1 (h ▸ Digits.toDigits d.digits)
  refine ⟨.cons hc .nil, by simp, hrest, by simp, fun negative => ?_⟩
  have hread : Nat.ofDigitChars 10 ([c] ++ rest) 0 = d.digits := by
    rw [List.singleton_append, ← h, ofDigitChars_toDigits]
  rw [hread]
  congr 1
  simp

/-- Zeros behind the digits, and one more behind the point. -/
lemma isText_zeros (h : 0 ≤ d.exponent) :
    d.IsText (Nat.toDigits 10 d.digits ++ List.replicate d.exponent.toNat '0') ['0'] none := by
  refine ⟨(Digits.toDigits _).append (.zeros _), by simp [Nat.toDigits_ne_nil], by decide, by simp,
    fun negative => ?_⟩
  have hzeros : Nat.ofDigitChars 10
      (Nat.toDigits 10 d.digits ++ List.replicate d.exponent.toNat '0' ++ ['0']) 0 =
        d.digits * 10 ^ d.exponent.toNat * 10 := by
    simp [Nat.ofDigitChars_append, Nat.ofDigitChars_cons]
    ring
  rw [hzeros, Binary64.ofDecimal_mul_ten, Binary64.ofDecimal_mul_pow]
  congr 1
  simp [Int.toNat_of_nonneg h]

/-- A point among the digits, so that as many of them are behind it as the exponent says. -/
lemma isText_point {point : ℕ} (hpos : 0 < point) (hexponent : d.exponent < 0)
    (hpoint : (point : ℤ) = (Nat.toDigits 10 d.digits).length + d.exponent) :
    d.IsText ((Nat.toDigits 10 d.digits).take point) ((Nat.toDigits 10 d.digits).drop point)
      none := by
  have hdigits := Digits.toDigits d.digits
  have hbehind : (Nat.toDigits 10 d.digits).drop point ≠ [] := by
    rw [ne_eq, List.drop_eq_nil_iff]
    omega
  refine ⟨hdigits.of_subset (List.take_subset _ _), ?_, hdigits.of_subset (List.drop_subset _ _),
    fun h => absurd h hbehind, fun negative => ?_⟩
  · rw [ne_eq, List.take_eq_nil_iff, not_or]
    exact ⟨hpos.ne', Nat.toDigits_ne_nil⟩
  · rw [List.take_append_drop, ofDigitChars_toDigits, List.length_drop]
    congr 1
    simp only [Option.getD_none]
    omega

/-- A zero in front of the point, and zeros between the point and the digits. -/
lemma isText_zeros_in_front {zeros : ℕ}
    (hzeros : (zeros : ℤ) + (Nat.toDigits 10 d.digits).length + d.exponent = 0) :
    d.IsText ['0'] (List.replicate zeros '0' ++ Nat.toDigits 10 d.digits) none := by
  refine ⟨by decide, by simp, (Digits.zeros _).append (.toDigits _),
    by simp [Nat.toDigits_ne_nil], fun negative => ?_⟩
  have hread : Nat.ofDigitChars 10
      (['0'] ++ (List.replicate zeros '0' ++ Nat.toDigits 10 d.digits)) 0 = d.digits := by
    simp [Nat.ofDigitChars_cons, Nat.ofDigitChars_append]
  rw [hread, List.length_append, List.length_replicate]
  congr 1
  simp only [Option.getD_none]
  omega

/-- The layout of a decimal is such a text. -/
theorem exists_parts_layout :
    ∃ whole fraction exponent?, d.layout = parts whole fraction exponent? ∧
      d.IsText whole fraction exponent? := by
  have hne : Nat.toDigits 10 d.digits ≠ [] := Nat.toDigits_ne_nil
  rw [layout]
  split
  · -- with an exponent
    match h : Nat.toDigits 10 d.digits, hne with
    | [_], _ => exact ⟨_, _, _, rfl, d.isText_leading h⟩
    | _ :: _ :: _, _ => exact ⟨_, _, _, rfl, d.isText_leading h⟩
  · split
    · next hexponent => exact ⟨_, _, _, by simp [parts, exponentPart], d.isText_zeros hexponent⟩
    · split
      · next hexponent hleading =>
        have htext := d.isText_point (Nat.succ_pos _) (not_le.1 hexponent)
          (show ((((Nat.toDigits 10 d.digits).length : ℤ) - 1 + d.exponent).toNat.succ : ℤ) = _
            by omega)
        have hbehind := mt htext.exponent Bool.false_ne_true
        exact ⟨_, _, _, by simp [parts, exponentPart, hbehind], htext⟩
      · next hexponent hleading =>
        have hlength := List.length_pos_of_ne_nil hne
        have htext := d.isText_zeros_in_front (show
          ((-(((Nat.toDigits 10 d.digits).length : ℤ) - 1 + d.exponent)).toNat - 1 : ℕ) +
            ((Nat.toDigits 10 d.digits).length : ℤ) + d.exponent = 0 by omega)
        exact ⟨_, _, _, by simp [parts, exponentPart, hne], htext⟩

end Layout

end Decimal

end RuleFixtures
