import RuleFixtures.Json.Access

/-!
Samples: a value at an instant.

* `Instant.ofSeconds` rounds seconds to whole microseconds, a half to the even neighbour, and
  refuses what lies outside the years 1 to 9999.
* `Sample.ofPair` decodes a pair of seconds and value.
-/

namespace RuleFixtures

/-- The year as the calendar of the platform counts it must fit 32 bits. -/
def calendarYears (year : Int) : Bool := -2147483648 ≤ year - 1900 && year - 1900 ≤ 2147483647

/-- The instant of whole seconds and microseconds; years outside 1 to 9999 are refused, and told as
32 bits hold them. -/
def Instant.ofParts (seconds micros : Int) : Except RangeFault Instant :=
  let year := Instant.yearOfSeconds seconds
  if !calendarYears year then .error .calendar
  else if year < 1 || 9999 < year then .error (.year (Int.bmod year 4294967296))
  else .ok ⟨seconds * 1000000 + micros⟩

/-- The end of the seconds that 64 bits hold with a sign. -/
def secondsLimit : Int := 9223372036854775808

/-- The instant of a number of seconds. The fraction is rounded to microseconds from its product
with a million. -/
def Instant.ofSeconds (seconds : Binary64) : Except RangeFault Instant :=
  match seconds with
  | .nan => .error .timeNotNumber
  | .infinite _ => .error .timestamp
  | finite =>
    let whole := finite.truncate?.getD 0
    let fraction := (finite.splitFraction?.map Prod.fst).getD default
    let micros := ((fraction.mul (.ofInt 1000000)).roundToInt?).getD 0
    let (whole, micros) :=
      if 1000000 ≤ micros then (whole + 1, micros - 1000000)
      else if micros < 0 then (whole - 1, micros + 1000000)
      else (whole, micros)
    if whole < -secondsLimit || secondsLimit ≤ whole then .error .timestamp
    else ofParts whole micros

/-- A value at an instant. -/
structure Sample where
  time : Instant
  value : Binary64
  deriving DecidableEq, Inhabited

/-- The instant of a value given in seconds. -/
def decodeTime (raw : Json) : Except Fault Instant := do
  let seconds ← raw.toDouble
  (Instant.ofSeconds seconds).mapError .range

/-- The element of a pair at a position. -/
def pairElement (pair : Json) (position : Nat) : Except Fault Json :=
  (pair.elementAt position).mapError .shape

/-- Decodes a pair of seconds and value. -/
def Sample.ofPair (pair : Json) : Except Fault Sample := do
  let time ← decodeTime (← pairElement pair 0)
  let value ← (← pairElement pair 1).toDouble
  return ⟨time, value⟩

end RuleFixtures
