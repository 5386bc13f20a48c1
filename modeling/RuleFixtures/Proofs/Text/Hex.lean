import Mathlib.Tactic
import RuleFixtures.Text.Hex

/-!
Hexadecimal digits are read as they are written, in small letters or large ones.
-/

namespace RuleFixtures.Text

lemma hexValue?_hexDigit : ∀ value < 16, hexValue? (hexDigit value) = some value := by
  decide

lemma hexValue?_toUpper_hexDigit :
    ∀ value < 16, hexValue? (hexDigit value).toUpper = some value := by
  decide

/-- Digits are read in any writing in which each of them is. -/
lemma hexNumber?_map_hexDigits {write : Char → Char}
    (hwrite : ∀ value < 16, hexValue? (write (hexDigit value)) = some value) (width n : ℕ) :
    hexNumber? ((hexDigits width n).map write) = some (n % 16 ^ width) := by
  induction width generalizing n with
  | zero => simp [hexDigits, hexNumber?, Nat.mod_one]
  | succ width ih =>
    have hfront := ih (n / 16)
    have hlast := hwrite (n % 16) (Nat.mod_lt _ (by norm_num))
    rw [hexDigits, List.map_append, hexNumber?, List.foldl_append, ← hexNumber?, hfront]
    simp only [List.map_cons, List.map_nil, List.foldl_cons, List.foldl_nil, Option.bind_some,
      hlast, Option.map_some]
    rw [pow_succ', Nat.mod_mul]
    congr 1
    ring

/-- Small digits are read as they are written. -/
lemma hexNumber?_hexDigits (width n : ℕ) :
    hexNumber? (hexDigits width n) = some (n % 16 ^ width) := by
  rw [← List.map_id (hexDigits width n)]
  exact hexNumber?_map_hexDigits hexValue?_hexDigit width n

/-- Large digits are read as they are written. -/
lemma hexNumber?_upperHexDigits (width n : ℕ) :
    hexNumber? (upperHexDigits width n) = some (n % 16 ^ width) :=
  hexNumber?_map_hexDigits hexValue?_toUpper_hexDigit width n

end RuleFixtures.Text
