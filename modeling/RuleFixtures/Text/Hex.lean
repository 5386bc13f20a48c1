/-!
Hexadecimal digits.

* `hexDigits` writes a number with a given number of digits; `hexValue?` reads one digit.
-/

namespace RuleFixtures.Text

/-- The lower-case hexadecimal digit of a value below sixteen. -/
def hexDigit (value : Nat) : Char :=
  if value < 10 then Char.ofNat (0x30 + value) else Char.ofNat (0x57 + value)

/-- The last `width` hexadecimal digits of a number, in lower case. -/
def hexDigits : Nat → Nat → List Char
  | 0, _ => []
  | width + 1, n => hexDigits width (n / 16) ++ [hexDigit (n % 16)]

/-- The last `width` hexadecimal digits of a number, in upper case. -/
def upperHexDigits (width n : Nat) : List Char := (hexDigits width n).map Char.toUpper

/-- The value of a hexadecimal digit in either case. -/
def hexValue? (c : Char) : Option Nat :=
  if c.isDigit then some (c.toNat - 0x30)
  else if 'a' ≤ c ∧ c ≤ 'f' then some (c.toNat - 0x57)
  else if 'A' ≤ c ∧ c ≤ 'F' then some (c.toNat - 0x37)
  else none

/-- The value of a run of hexadecimal digits. -/
def hexNumber? (s : List Char) : Option Nat :=
  s.foldl (fun value c => value.bind fun v => (hexValue? c).map (16 * v + ·)) (some 0)

end RuleFixtures.Text
