import Mathlib.Tactic
import RuleFixtures.Fixtures.Row

/-!
The characters of sample texts.

* `Numeral` is a text of letters, digits, signs and points.
* `numeral_write`: the text of every sample value is a numeral, so it holds no blank and is not the
  mark of a missing value (`write_ne_missingValue`).
-/

namespace RuleFixtures

/-- Letters, digits, signs and the point. -/
def isNumeralChar (c : Char) : Bool := c.isAlphanum || c = '-' || c = '+' || c = '.'

/-- They lie between the plus and the small letters. -/
lemma isNumeralChar_bounds {c : Char} (hc : isNumeralChar c = true) :
    0x2B ≤ c.toNat ∧ c.toNat ≤ 0x7A := by
  have hcases : (c.isAlphanum = true ∨ c = '-') ∨ c = '+' ∨ c = '.' := by
    simpa [isNumeralChar, or_assoc] using hc
  rcases hcases with (halnum | rfl) | rfl | rfl
  · unfold Char.isAlphanum Char.isAlpha Char.isUpper Char.isLower Char.isDigit at halnum
    simp only [Bool.or_eq_true, Bool.and_eq_true, decide_eq_true_eq, ge_iff_le,
      UInt32.le_iff_toNat_le] at halnum
    simp at halnum
    omega
  all_goals decide

/-- A run of letters, digits, signs and points. -/
def Numeral (s : List Char) : Prop := ∀ c ∈ s, isNumeralChar c = true

instance : DecidablePred Numeral := fun s =>
  decidable_of_iff (s.all isNumeralChar = true) List.all_eq_true

namespace Numeral

lemma nil : Numeral [] := by simp [Numeral]

lemma cons {c : Char} {s : List Char} (hc : isNumeralChar c = true) (hs : Numeral s) :
    Numeral (c :: s) :=
  List.forall_mem_cons.2 ⟨hc, hs⟩

lemma append {s t : List Char} (hs : Numeral s) (ht : Numeral t) : Numeral (s ++ t) :=
  List.forall_mem_append.2 ⟨hs, ht⟩

/-- A part of a numeral is a numeral. -/
lemma of_subset {s t : List Char} (ht : Numeral t) (h : ∀ c ∈ s, c ∈ t) : Numeral s :=
  fun c hc => ht c (h c hc)

lemma toDigits (n : ℕ) : Numeral (Nat.toDigits 10 n) := by
  intro c hc
  have hdigit := Nat.isDigit_of_mem_toDigits (by norm_num) (by norm_num) hc
  simp [isNumeralChar, Char.isAlphanum, hdigit]

lemma zeros (n : ℕ) : Numeral (List.replicate n '0') := by
  intro c hc
  rw [List.eq_of_mem_replicate hc]
  decide

end Numeral

/-! ### The texts of numbers -/

namespace Decimal

lemma numeral_exponentText (e : ℤ) : Numeral (exponentText e) := by
  have hdigits := Numeral.toDigits e.natAbs
  refine Numeral.cons (by split <;> decide) ?_
  split
  · exact Numeral.cons (by decide) hdigits
  · exact hdigits

lemma numeral_layout (d : Decimal) : Numeral d.layout := by
  have hdigits := Numeral.toDigits d.digits
  unfold layout
  generalize Nat.toDigits 10 d.digits = digits at hdigits ⊢
  dsimp only
  split
  · -- with an exponent
    split
    · exact Numeral.nil
    · exact Numeral.cons (hdigits _ List.mem_cons_self)
        (Numeral.cons (by decide) (numeral_exponentText _))
    · next first rest _ =>
      obtain ⟨hfirst, hrest⟩ := List.forall_mem_cons.1 hdigits
      exact (Numeral.cons hfirst (Numeral.cons (by decide) hrest)).append
        (Numeral.cons (by decide) (numeral_exponentText _))
  · split
    · exact (hdigits.append (Numeral.zeros _)).append (by decide)
    · split
      · exact (hdigits.of_subset fun c hc => List.mem_of_mem_take hc).append
          (Numeral.cons (by decide) (hdigits.of_subset fun c hc => List.mem_of_mem_drop hc))
      · exact (Numeral.cons (by decide) (Numeral.cons (by decide) (Numeral.zeros _))).append hdigits

end Decimal

lemma Binary64.numeral_textList (x : Binary64) : Numeral x.textList := by
  cases x with
  | nan => decide
  | infinite negative => cases negative <;> decide
  | finite negative mantissa scale canonical =>
    have hmagnitude : Numeral
        (if mantissa = 0 then "0.0".toList else (shortest mantissa scale).layout) := by
      split
      · decide
      · exact Decimal.numeral_layout _
    simp only [textList]
    split
    · exact Numeral.cons (by decide) hmagnitude
    · exact hmagnitude

lemma numeral_toString (n : ℤ) : Numeral (toString n).toList := by
  cases n with
  | ofNat n =>
    rw [show (toString (Int.ofNat n)) = Nat.repr n from rfl, Nat.toList_repr]
    exact Numeral.toDigits n
  | negSucc n =>
    rw [show (toString (Int.negSucc n)) = "-" ++ Nat.repr (n + 1) from rfl, String.toList_append,
      Nat.toList_repr]
    exact Numeral.append (by decide) (Numeral.toDigits _)

/-! ### The texts of samples -/

namespace SampleText

theorem numeral_write (value : Binary64) : Numeral (write value).toList := by
  cases value with
  | nan => decide
  | infinite negative => cases negative <;> decide
  | finite negative mantissa scale canonical =>
    simp only [write]
    split
    · exact numeral_toString _
    · rw [Binary64.text, String.toList_ofList]
      exact Binary64.numeral_textList _

lemma blank_notMem_write (value : Binary64) : ' ' ∉ (write value).toList := by
  intro h
  have := numeral_write value ' ' h
  simp [isNumeralChar] at this

lemma write_ne_missingValue (value : Binary64) : write value ≠ missingValue := by
  intro h
  have := numeral_write value '_' (by rw [h]; decide)
  simp [isNumeralChar] at this

end SampleText

end RuleFixtures
