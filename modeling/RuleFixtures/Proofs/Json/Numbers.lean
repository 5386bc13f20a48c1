import RuleFixtures.Json.Reader
import RuleFixtures.Json.Writer
import RuleFixtures.Proofs.Fixtures.SampleReading

/-!
Numbers in JSON text are read back.

A number is read as far as it goes, so it must be followed by what is no part of a number. A zero in
front would end the whole digits, but no number is written with one.

* `Json.readNumber?_parts` and `Json.readNumber?_digits`: digits with a point or an exponent are
  read as a double, and digits alone as a whole number.
* `Json.readNumber?_textList`: the text of a finite double is read as the double.
* `Json.readNumber?_toString`: a whole number is read back if it is not too long.
-/

namespace RuleFixtures

open Decimal (parts exponentPart)

/-! ### The first digit -/

/-- A zero in front of a number is all that stands in front of its point. -/
def NoLeadingZero (digits : List Char) : Prop := digits.head? = some '0' → digits = ['0']

lemma noLeadingZero_toDigits (n : ℕ) : NoLeadingZero (Nat.toDigits 10 n) := by
  induction n using Nat.strongRecOn with
  | ind n ih =>
    rcases Nat.lt_or_ge n 10 with hless | hmore
    · rw [Nat.toDigits_of_lt_base hless]
      intro h
      rw [Option.some.inj h]
    · have hrest := ih (n / 10) (by omega)
      intro h
      rw [Nat.toDigits_of_base_le (by norm_num) hmore,
        List.head?_append_of_ne_nil _ Nat.toDigits_ne_nil] at h
      -- the digits in front would be a single zero
      have hzero : n / 10 = 0 := by
        have hvalue := Nat.ofDigitChars_toDigits (b := 10) (n := n / 10) (by norm_num) (by norm_num)
        rw [hrest h] at hvalue
        exact hvalue.symm
      omega

namespace Decimal

/-- The layout of a decimal that is not zero starts with another digit, or with a zero in front of
the point. -/
lemma head_layout {d : Decimal} (hd : d.digits ≠ 0) {rest : List Char}
    (h : d.layout = '0' :: rest) : ∃ c tail, rest = c :: tail ∧ c.isDigit = false := by
  have hzero := noLeadingZero_toDigits d.digits
  have hne : Nat.toDigits 10 d.digits ≠ [] := Nat.toDigits_ne_nil
  have hvalue : Nat.ofDigitChars 10 (Nat.toDigits 10 d.digits) 0 = d.digits := by simp
  have hfirst : (Nat.toDigits 10 d.digits).head? ≠ some '0' := by
    intro hhead
    rw [hzero hhead] at hvalue
    exact hd hvalue.symm
  rw [layout] at h
  generalize Nat.toDigits 10 d.digits = digits at hfirst hne h
  obtain ⟨first, more, rfl⟩ := List.exists_cons_of_ne_nil hne
  have hc : first ≠ '0' := by simpa using hfirst
  -- the layouts in turn: only the one with the point in front of all digits starts with a zero
  split at h
  · split at h
    · cases h
    · next hdigits =>
      cases hdigits
      exact absurd (List.cons.inj h).1 hc
    · next hdigits =>
      cases hdigits
      exact absurd (List.cons.inj h).1 hc
  · split at h
    · exact absurd (List.cons.inj h).1 hc
    · split at h
      · exact absurd (List.cons.inj h).1 hc
      · obtain rfl := (List.cons.inj h).2
        exact ⟨_, _, rfl, rfl⟩

end Decimal

namespace Json

/-! ### Ends of numbers -/

/-- What follows a value in a document: nothing, a blank, a comma, or a closing bracket. -/
def Ends (rest : List Char) : Prop :=
  ∀ c ∈ rest.head?, isSpace c = true ∨ c = ',' ∨ c = ']' ∨ c = '\x7d'

lemma Ends.not_number {rest : List Char} (h : Ends rest) :
    ∀ c ∈ rest.head?, c.isDigit = false ∧ c ≠ '.' ∧ c ≠ 'e' ∧ c ≠ 'E' := by
  intro c hc
  obtain hspace | rfl | rfl | rfl := h c hc
  · simp only [isSpace, Bool.or_eq_true, decide_eq_true_eq] at hspace
    obtain ((rfl | rfl) | rfl) | rfl := hspace <;> decide
  all_goals decide

lemma Ends.not_isDigit {rest : List Char} (h : Ends rest) :
    ∀ c ∈ rest.head?, c.isDigit = false := fun c hc => (h.not_number c hc).1

/-! ### Digits, points and exponents -/

/-- The exponent behind a number. -/
def exponentOf? (rest : List Char) : Option (ℤ × List Char) :=
  match rest with
  | c :: tail =>
    if c = 'e' || c = 'E' then
      let (minus, digits) := DecimalReader.splitSign tail
      let power := digits.takeWhile Char.isDigit
      if power.isEmpty then none
      else
        let value : Int := (Nat.ofDigitChars 10 power 0 : Nat)
        some (if minus then -value else value, digits.drop power.length)
    else none
  | [] => none

/-- The digits in front of the point. -/
def wholeDigits (body : List Char) : List Char :=
  match body with
  | '0' :: _ => ['0']
  | _ => body.takeWhile Char.isDigit

/-- The digits behind the point, if it is there. -/
def fractionDigits (rest : List Char) : List Char :=
  match rest with
  | '.' :: tail => tail.takeWhile Char.isDigit
  | _ => []

/-- The digits in front of the point, those behind it, and what follows. -/
def splitNumber (body : List Char) : List Char × List Char × List Char :=
  let whole := wholeDigits body
  let rest := body.drop whole.length
  let fraction := fractionDigits rest
  (whole, fraction, if fraction.isEmpty then rest else rest.drop (fraction.length + 1))

/-- Splits off a minus. -/
def splitMinus (s : List Char) : Bool × List Char :=
  match s with
  | '-' :: rest => (true, rest)
  | _ => (false, s)

/-- Reads a number without its sign. -/
def readUnsigned? (negative : Bool) (body : List Char) : Option (Json × List Char) :=
  let (whole, fraction, rest) := splitNumber body
  if whole.isEmpty then none
  else
    let digits := Nat.ofDigitChars 10 (whole ++ fraction) 0
    match exponentOf? rest with
    | some (power, rest) =>
      some (.float (.ofDecimal negative digits (power - fraction.length)), rest)
    | none =>
      if fraction.isEmpty then
        if 4300 < whole.length then none
        else some (.int (if negative then -(digits : Int) else digits), rest)
      else some (.float (.ofDecimal negative digits (-(fraction.length : Int))), rest)

lemma readNumber?_eq (s : List Char) :
    readNumber? s = readUnsigned? (splitMinus s).1 (splitMinus s).2 := by
  unfold readNumber?
  split
  next negative body h =>
    have hsplit : splitMinus s = (negative, body) := h
    rw [hsplit]
    rfl

/-- A minus in front of digits is split off. -/
lemma splitMinus_sign (negative : Bool) {body : List Char} (hbody : body.head? ≠ some '-') :
    splitMinus (if negative then '-' :: body else body) = (negative, body) := by
  cases negative with
  | true => rfl
  | false =>
    cases body with
    | nil => rfl
    | cons c body =>
      have hc : c ≠ '-' := by simpa using hbody
      simp [splitMinus, hc]

section Parts

variable {whole fraction rest : List Char}

lemma wholeDigits_append (hwhole : Digits whole) (hne : whole ≠ []) (hzero : NoLeadingZero whole)
    (hrest : ∀ c ∈ rest.head?, c.isDigit = false) : wholeDigits (whole ++ rest) = whole := by
  obtain ⟨first, more, rfl⟩ := List.exists_cons_of_ne_nil hne
  unfold wholeDigits
  split
  · next heq =>
    obtain rfl : first = '0' := (List.cons.inj heq).1
    exact (hzero rfl).symm
  · exact (hwhole.span hrest).1

/-- The point with the digits behind it, if there are any. -/
def pointPart (fraction : List Char) : List Char := if fraction = [] then [] else '.' :: fraction

lemma head?_pointPart (hrest : ∀ c ∈ rest.head?, c.isDigit = false ∧ c ≠ '.') :
    ∀ c ∈ (pointPart fraction ++ rest).head?, c.isDigit = false := by
  rw [pointPart]
  split
  · exact fun c hc => (hrest c hc).1
  · rintro c ⟨⟩
    rfl

lemma fractionDigits_append (hfraction : Digits fraction)
    (hrest : ∀ c ∈ rest.head?, c.isDigit = false ∧ c ≠ '.') :
    fractionDigits (pointPart fraction ++ rest) = fraction := by
  rw [pointPart]
  split
  · next hnone =>
    rw [List.nil_append, hnone]
    unfold fractionDigits
    split
    · exact absurd rfl (hrest '.' rfl).2
    · rfl
  · exact (hfraction.span fun c hc => (hrest c hc).1).1

/-- A number is split at its point, and in front of what is no part of it. -/
lemma splitNumber_append (hwhole : Digits whole) (hne : whole ≠ []) (hzero : NoLeadingZero whole)
    (hfraction : Digits fraction) (hrest : ∀ c ∈ rest.head?, c.isDigit = false ∧ c ≠ '.') :
    splitNumber (whole ++ (pointPart fraction ++ rest)) = (whole, fraction, rest) := by
  have hbehind : (if fraction.isEmpty then pointPart fraction ++ rest
      else (pointPart fraction ++ rest).drop (fraction.length + 1)) = rest := by
    rw [pointPart]
    by_cases hnone : fraction = [] <;> simp [hnone]
  simp only [splitNumber, wholeDigits_append hwhole hne hzero (head?_pointPart hrest),
    List.drop_left, fractionDigits_append hfraction hrest, hbehind]

/-- An exponent is read as it is written. -/
lemma exponentOf?_exponentPart (e : ℤ) (hrest : ∀ c ∈ rest.head?, c.isDigit = false) :
    exponentOf? (exponentPart (some e) ++ rest) = some (e, rest) := by
  obtain ⟨hdigits, hne⟩ := Decimal.digits_exponentDigits e
  obtain ⟨htake, hdrop⟩ := hdigits.span hrest
  have hread : DecimalReader.splitSign (Decimal.exponentText e ++ rest) =
      (decide (e < 0), Decimal.exponentDigits e ++ rest) := by
    rw [Decimal.exponentText_eq]
    by_cases hneg : e < 0 <;> simp [DecimalReader.splitSign, hneg]
  rw [exponentPart, List.cons_append, exponentOf?]
  simp only [hread, htake, List.drop_left, Decimal.ofDigitChars_exponentDigits]
  rw [if_pos (by decide), if_neg (by simpa using hne)]
  by_cases hneg : e < 0
  · simp only [hneg, decide_true, if_true, Option.some.injEq, Prod.mk.injEq, and_true]
    omega
  · simp only [hneg, decide_false, Bool.false_eq_true, if_false, Option.some.injEq,
      Prod.mk.injEq, and_true]
    omega

lemma exponentOf?_of_ends (hrest : Ends rest) : exponentOf? rest = none := by
  cases rest with
  | nil => rfl
  | cons c rest =>
    have hc := (hrest.not_number c rfl).2.2
    rw [exponentOf?]
    simp [hc]

lemma head?_ne_minus (hwhole : Digits whole) (hne : whole ≠ []) (rest : List Char) :
    (whole ++ rest).head? ≠ some '-' := by
  obtain ⟨first, more, rfl⟩ := List.exists_cons_of_ne_nil hne
  have hfirst := ne_of_isDigit (hwhole first List.mem_cons_self) (c := '-') rfl
  simpa using hfirst

/-- Digits with a point or an exponent are read as a double. -/
theorem readNumber?_parts (negative : Bool) {exponent? : Option ℤ} (hwhole : Digits whole)
    (hne : whole ≠ []) (hzero : NoLeadingZero whole) (hfraction : Digits fraction)
    (hexponent : fraction = [] → exponent?.isSome) (hrest : Ends rest) :
    readNumber? ((if negative then '-' :: parts whole fraction exponent?
        else parts whole fraction exponent?) ++ rest) =
      some (.float (.ofDecimal negative (Nat.ofDigitChars 10 (whole ++ fraction) 0)
        (exponent?.getD 0 - fraction.length)), rest) := by
  have hbody : parts whole fraction exponent? ++ rest = whole ++
      (pointPart fraction ++ (exponentPart exponent? ++ rest)) := by
    simp only [parts, pointPart, List.append_assoc]
  have hsign : (if negative then '-' :: parts whole fraction exponent?
      else parts whole fraction exponent?) ++ rest =
        if negative then '-' :: (parts whole fraction exponent? ++ rest)
        else parts whole fraction exponent? ++ rest := by
    cases negative <;> rfl
  -- neither a digit nor a point follows the fraction, so it is taken as a whole
  have hbehind : ∀ c ∈ (exponentPart exponent? ++ rest).head?, c.isDigit = false ∧ c ≠ '.' := by
    cases exponent? with
    | none => exact fun c hc => ⟨hrest.not_isDigit c hc, (hrest.not_number c hc).2.1⟩
    | some e =>
      rintro c ⟨⟩
      decide
  have hsome : whole.isEmpty = false := by simpa using hne
  rw [hsign, readNumber?_eq, splitMinus_sign negative (by
    rw [hbody]
    exact head?_ne_minus hwhole hne _), hbody, readUnsigned?,
    splitNumber_append hwhole hne hzero hfraction hbehind]
  simp only [hsome, Bool.false_eq_true, if_false]
  cases exponent? with
  | some e =>
    rw [exponentOf?_exponentPart e hrest.not_isDigit]
    rfl
  | none =>
    have hpoint : fraction.isEmpty = false := by
      simpa using mt hexponent (by simp)
    rw [exponentPart, List.nil_append, exponentOf?_of_ends hrest]
    simp [hpoint]

/-- Digits alone are read as a whole number. -/
theorem readNumber?_digits (negative : Bool) (hwhole : Digits whole) (hne : whole ≠ [])
    (hzero : NoLeadingZero whole) (hlength : whole.length ≤ 4300) (hrest : Ends rest) :
    readNumber? ((if negative then '-' :: whole else whole) ++ rest) =
      some (.int (if negative then -(Nat.ofDigitChars 10 whole 0 : ℤ)
        else Nat.ofDigitChars 10 whole 0), rest) := by
  have hsign : (if negative then '-' :: whole else whole) ++ rest =
      if negative then '-' :: (whole ++ rest) else whole ++ rest := by
    cases negative <;> rfl
  have hbehind : ∀ c ∈ rest.head?, c.isDigit = false ∧ c ≠ '.' := fun c hc =>
    ⟨hrest.not_isDigit c hc, (hrest.not_number c hc).2.1⟩
  have hsome : whole.isEmpty = false := by simpa using hne
  have hsplit := splitNumber_append hwhole hne hzero Digits.nil hbehind
  rw [pointPart, if_pos rfl, List.nil_append] at hsplit
  rw [hsign, readNumber?_eq, splitMinus_sign negative (head?_ne_minus hwhole hne _), readUnsigned?,
    hsplit]
  simp only [hsome, Bool.false_eq_true, if_false, exponentOf?_of_ends hrest, List.isEmpty_nil,
    if_true,
    List.append_nil]
  rw [if_neg (by omega)]

end Parts

/-! ### Numbers as they are written -/

/-- The text of a finite double is read as the double. -/
theorem readNumber?_textList (negative : Bool) {mantissa scale : ℕ}
    (canonical : Canonical mantissa scale) {rest : List Char} (hrest : Ends rest) :
    readNumber? ((Binary64.finite negative mantissa scale canonical).textList ++ rest) =
      some (.float (.finite negative mantissa scale canonical), rest) := by
  by_cases hmantissa : mantissa = 0
  · subst hmantissa
    obtain rfl := canonical.scale_eq_zero
    have htext : (Binary64.finite negative 0 0 canonical).textList =
        if negative then '-' :: parts ['0'] ['0'] none else parts ['0'] ['0'] none := rfl
    rw [htext, readNumber?_parts negative (by decide) (by simp) (fun _ => rfl) (by decide)
      (by simp) hrest]
    rfl
  -- the shortest digits of a number that is not zero have the number as their value
  · have hread := Binary64.ofDecimal_shortest negative canonical hmantissa
    obtain ⟨whole, fraction, exponent?, hlayout, htext⟩ :=
      Decimal.exists_parts_layout (Binary64.shortest mantissa scale)
    have hzero : NoLeadingZero whole := by
      intro hhead
      have hdigits : (Binary64.shortest mantissa scale).digits ≠ 0 := by
        intro hnone
        rw [hnone] at hread
        cases hread
        exact hmantissa rfl
      obtain ⟨more, rfl⟩ : ∃ more, whole = '0' :: more := by
        obtain ⟨first, more, rfl⟩ := List.exists_cons_of_ne_nil htext.whole_ne_nil
        exact ⟨more, by rw [Option.some.inj hhead]⟩
      rw [parts, List.cons_append] at hlayout
      obtain ⟨c, tail, htail, hc⟩ := Decimal.head_layout hdigits hlayout
      -- a second digit would stand behind the zero
      cases more with
      | nil => rfl
      | cons second more =>
        obtain rfl := (List.cons.inj htail).1
        have hsecond := htext.digits_whole second (by simp)
        rw [hsecond] at hc
        cases hc
    rw [Binary64.textList, if_neg hmantissa, hlayout,
      readNumber?_parts negative htext.digits_whole htext.whole_ne_nil hzero
        htext.digits_fraction htext.exponent hrest, htext.value, hread]

/-- A whole number is read back if it is not too long. -/
theorem readNumber?_toString {n : ℤ} (hlength : (Nat.toDigits 10 n.natAbs).length ≤ 4300)
    {rest : List Char} (hrest : Ends rest) :
    readNumber? ((toString n).toList ++ rest) = some (.int n, rest) := by
  rw [toList_toString, readNumber?_digits _ (Digits.toDigits _) Nat.toDigits_ne_nil
    (noLeadingZero_toDigits _) hlength hrest, Nat.ofDigitChars_toDigits (by norm_num) (by norm_num)]
  congr 2
  by_cases hneg : n < 0
  · simp only [hneg, decide_true, if_true, Json.int.injEq]
    omega
  · simp only [hneg, decide_false, Bool.false_eq_true, if_false, Json.int.injEq]
    omega

end Json

end RuleFixtures
