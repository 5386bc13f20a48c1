import RuleFixtures.Number.DecimalReader

/-!
The shortest decimal text of a double.

Of the decimals that read back to a double the one with the fewest digits is written, and of
two such the nearer one. A double without such a decimal of seventeen digits would be written
exactly.

* `Binary64.shortest` selects the digits and their exponent.
* `Binary64.text` lays them out: positionally when the exponent of the leading digit is in
  `-4 .. 15`, otherwise with an exponent of at least two digits.
-/

namespace RuleFixtures

/-- A decimal `digits * 10 ^ exponent`. -/
structure Decimal where
  digits : Nat
  exponent : Int
  deriving DecidableEq, Repr

namespace Decimal

/-- Moves the trailing zeros of the digits into the exponent. -/
def normalize (d : Decimal) : Decimal :=
  if 0 < d.digits ∧ d.digits % 10 = 0 then normalize ⟨d.digits / 10, d.exponent + 1⟩ else d
  termination_by d.digits
  decreasing_by omega

/-- The texts of the exponents of the leading digit: a sign and at least two digits. -/
def exponentText (e : Int) : List Char :=
  let digits := Nat.toDigits 10 e.natAbs
  (if e < 0 then '-' else '+') :: (if digits.length < 2 then '0' :: digits else digits)

/-- Lays out a decimal: positionally when the exponent of its leading digit is in `-4 .. 15`. -/
def layout (d : Decimal) : List Char :=
  let digits := Nat.toDigits 10 d.digits
  let leading : Int := (digits.length : Int) - 1 + d.exponent
  if leading < -4 || 15 < leading then
    match digits with
    | [] => []
    | [c] => c :: 'e' :: exponentText leading
    | c :: rest => c :: '.' :: rest ++ 'e' :: exponentText leading
  else if 0 ≤ d.exponent then digits ++ List.replicate d.exponent.toNat '0' ++ ['.', '0']
  else if 0 ≤ leading then
    digits.take (leading.toNat + 1) ++ '.' :: digits.drop (leading.toNat + 1)
  else '0' :: '.' :: List.replicate ((-leading).toNat - 1) '0' ++ digits

end Decimal

namespace Binary64

/-- The exponent of the leading decimal digit of a positive number of units. -/
def leadingExponent (units : Nat) : Int :=
  ((Nat.toDigits 10 (units * Nat.pow 10 324 / unitsOfOne)).length : Int) - 325

/-- Does the decimal read back to a number of this magnitude? -/
def readsBack (mantissa scale : Nat) (d : Decimal) : Bool :=
  match ofDecimal false d.digits d.exponent with
  | .finite _ m s _ => m = mantissa && s = scale
  | _ => false

/-- Of the two neighbours of a magnitude among the multiples of `10 ^ grid`, the one that reads
back; of two that do, the nearer, and on a tie the even one. -/
def onGrid? (mantissa scale : Nat) (grid : Int) : Option Decimal :=
  let units := mantissa * Nat.pow 2 scale
  let num := if 0 ≤ grid then units else units * Nat.pow 10 (-grid).toNat
  let den := if 0 ≤ grid then unitsOfOne * Nat.pow 10 grid.toNat else unitsOfOne
  let low : Decimal := ⟨num / den, grid⟩
  let high : Decimal := ⟨num / den + 1, grid⟩
  match readsBack mantissa scale low, readsBack mantissa scale high with
  | false, false => none
  | true, false => some low
  | false, true => some high
  | true, true => some ⟨Rounding.nearest num den, grid⟩

/-- The decimal that writes a positive magnitude. -/
def shortest (mantissa scale : Nat) : Decimal :=
  let leading := leadingExponent (mantissa * Nat.pow 2 scale)
  let found := (List.range 17).findSome? fun (extra : Nat) =>
    onGrid? mantissa scale (leading - extra)
  (found.getD ⟨mantissa * Nat.pow 2 scale * Nat.pow 5 1074, -1074⟩).normalize

/-- The text of a double. -/
def textList : Binary64 → List Char
  | .nan => "nan".toList
  | .infinite negative => if negative then "-inf".toList else "inf".toList
  | .finite negative mantissa scale _ =>
    let magnitude :=
      if mantissa = 0 then "0.0".toList else (shortest mantissa scale).layout
    if negative then '-' :: magnitude else magnitude

/-- The text of a double: the fewest digits that read back. -/
def text (x : Binary64) : String := String.ofList x.textList

end Binary64

end RuleFixtures
