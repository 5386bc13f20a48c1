import RuleFixtures.Number.Shortest

/-!
The text of a sample value in an input series.

* `SampleText.write` uses the words of the test runner for special values, drops the fraction of
  whole numbers below `10 ^ 15`, and otherwise writes the fewest digits that read back.
-/

namespace RuleFixtures.SampleText

/-- Whole numbers below this magnitude are written without a point. -/
def wholeLimit : Nat := Nat.pow 10 15

/-- The text of a sample value. -/
def write (value : Binary64) : String :=
  match value with
  | .nan => "NaN"
  | .infinite negative => if negative then "-Inf" else "+Inf"
  | finite =>
    let whole := finite.truncate?.getD 0
    if finite.isIntegral && whole.natAbs < wholeLimit then toString whole else finite.text

end RuleFixtures.SampleText
