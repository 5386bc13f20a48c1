import RuleFixtures.Number.Binary64
import RuleFixtures.Text.Blank
import RuleFixtures.Text.Digit

/-!
Reading doubles from decimal text.

* `Binary64.ofDecimal` is the double nearest to `digits * 10 ^ exponent`.
* `Binary64.readPlain?` reads the whole of a text such as `-1.5e3`, `.5`, `inf` or `NaN`.
* `Binary64.read?` allows blanks around it, digits of any script, and single underscores
  between digits.
-/

namespace RuleFixtures

namespace Binary64

/-- The double nearest to `digits * 10 ^ exponent`. Magnitudes far outside the range of the
finite doubles are settled by counting digits. -/
def ofDecimal (negative : Bool) (digits : Nat) (exponent : Int) : Binary64 :=
  let length : Int := ((Nat.toDigits 10 digits).length : Int)
  if digits = 0 then zero negative
  else if 310 < length + exponent then .infinite negative
  else if length + exponent < -330 then zero negative
  else if 0 ≤ exponent then ofRatio negative (digits * Nat.pow 10 exponent.toNat) 1
  else ofRatio negative digits (Nat.pow 10 (-exponent).toNat)

end Binary64

namespace DecimalReader

/-- Splits off the sign of a number, `true` for minus. -/
def splitSign : List Char → Bool × List Char
  | '-' :: rest => (true, rest)
  | '+' :: rest => (false, rest)
  | s => (false, s)

/-- A natural number written in ASCII digits, at least one. -/
def readNat? (s : List Char) : Option Nat :=
  if s.isEmpty || !s.all Char.isDigit then none else some (Nat.ofDigitChars 10 s 0)

/-- A whole number with an optional sign. -/
def readInt? (s : List Char) : Option Int :=
  let (negative, digits) := splitSign s
  (readNat? digits).map fun n => if negative then -(n : Int) else (n : Int)

/-- Splits digits, a point and more digits off a text: the digits on both sides of the point,
and what follows. -/
def splitDecimal (s : List Char) : List Char × List Char × List Char :=
  let rest := s.dropWhile Char.isDigit
  match rest with
  | '.' :: tail =>
    (s.takeWhile Char.isDigit, tail.takeWhile Char.isDigit, tail.dropWhile Char.isDigit)
  | _ => (s.takeWhile Char.isDigit, [], rest)

/-- The unsigned decimals: digits with a point among or beside them, and an exponent. -/
def readDecimal? (negative : Bool) (s : List Char) : Option Binary64 :=
  let (whole, fraction, rest) := splitDecimal s
  if whole.isEmpty && fraction.isEmpty then none
  else
    let value (exponent : Int) : Binary64 :=
      .ofDecimal negative (Nat.ofDigitChars 10 (whole ++ fraction) 0) (exponent - fraction.length)
    match rest with
    | [] => some (value 0)
    | c :: tail => if c = 'e' || c = 'E' then (readInt? tail).map value else none

/-- Takes away the underscores of a text when each stands between two ASCII digits. -/
def dropUnderscores? (previous : Char) : List Char → Option (List Char)
  | [] => if previous = '_' then none else some []
  | c :: rest =>
    if c = '_' then
      if previous.isDigit then dropUnderscores? c rest else none
    else if previous = '_' && !c.isDigit then none
    else (dropUnderscores? c rest).map (c :: ·)

/-- The text of a number without the blanks around it and the underscores in it, with digits of
any script written in ASCII. -/
def plainText? (text : String) : Option (List Char) :=
  let folded := (Text.foldDigits text.toList).map fun c =>
    if 0x80 ≤ c.toNat && Text.isBlank c then ' ' else c
  dropUnderscores? ' ' (Text.trimList Text.isAsciiBlank folded)

/-- Reads a whole number that may have blanks around it, digits of any script and underscores
between digits. -/
def readInteger? (text : String) : Option Int := (plainText? text).bind readInt?

end DecimalReader

namespace Binary64

/-- Reads a number that fills the text: a decimal, `inf`, `infinity` or `nan` in any case. -/
def readPlain? (s : List Char) : Option Binary64 :=
  let (negative, body) := DecimalReader.splitSign s
  let word := body.map Char.toLower
  if word = "inf".toList || word = "infinity".toList then some (.infinite negative)
  else if word = "nan".toList then some .nan
  else DecimalReader.readDecimal? negative body

/-- Reads a number that may have blanks around it, digits of any script and underscores
between digits. -/
def read? (text : String) : Option Binary64 := (DecimalReader.plainText? text).bind readPlain?

end Binary64

end RuleFixtures
