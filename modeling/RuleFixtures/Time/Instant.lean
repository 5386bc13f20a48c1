import RuleFixtures.Number.Shortest

/-!
Instants and durations, in whole microseconds.

* `Instant` counts from the start of 1970, `Duration` is a difference of instants.
* `Instant.isRepresentable` holds of the years 1 to 9999.
* `Duration.seconds` and `Instant.seconds` are the nearest doubles; `Duration.milliseconds`
  rounds the double a thousand times as large.
* `Instant.iso` and `Instant.stamp` write an instant with its date, its time of day and a zero
  offset.
-/

namespace RuleFixtures

/-- A difference of instants in microseconds. -/
structure Duration where
  micros : Int
  deriving DecidableEq, Repr, Inhabited

/-- Microseconds since the start of 1970. -/
structure Instant where
  micros : Int
  deriving DecidableEq, Repr, Inhabited

namespace Duration

/-- A duration of whole seconds. -/
def ofSeconds (n : Int) : Duration := ⟨n * 1000000⟩

/-- A duration of whole minutes. -/
def ofMinutes (n : Int) : Duration := ofSeconds (60 * n)

/-- The duration in seconds, as the nearest double. -/
def seconds (d : Duration) : Binary64 := .ofQuotient d.micros 1000000

/-- The duration in milliseconds, rounded from the double of its seconds times a thousand. -/
def milliseconds (d : Duration) : Int :=
  ((d.seconds.mul (.ofInt 1000)).roundToInt?).getD 0

/-- The quotient of two durations, as the nearest double; none when the divisor is zero. -/
def ratio? (d e : Duration) : Option Binary64 :=
  Binary64.ofIntRatio? d.micros e.micros

end Duration

namespace Instant

/-- The instant in seconds since the start of 1970, as the nearest double. -/
def seconds (t : Instant) : Binary64 := .ofQuotient t.micros 1000000

/-- The duration from one instant to another. -/
def since (t start : Instant) : Duration := ⟨t.micros - start.micros⟩

/-- The instant a duration earlier. -/
def minus (t : Instant) (d : Duration) : Instant := ⟨t.micros - d.micros⟩

/-- The instant a duration later. -/
def plus (t : Instant) (d : Duration) : Instant := ⟨t.micros + d.micros⟩

/-- The first microsecond of the year 1. -/
def first : Instant := ⟨-62135596800000000⟩

/-- The last microsecond of the year 9999. -/
def last : Instant := ⟨253402300799999999⟩

/-- Does the instant lie in the years 1 to 9999? -/
def isRepresentable (t : Instant) : Bool := first.micros ≤ t.micros && t.micros ≤ last.micros

/-- The proleptic year, month and day of a number of days since the start of 1970. The years
are counted from March, so that the leap day ends one. -/
def civilOfDays (days : Int) : Int × Nat × Nat :=
  let shifted := days + 719468
  let era := shifted / 146097
  let dayOfEra := (shifted % 146097).toNat
  let yearOfEra := (dayOfEra - dayOfEra / 1460 + dayOfEra / 36524 - dayOfEra / 146096) / 365
  let dayOfYear := dayOfEra - (365 * yearOfEra + yearOfEra / 4 - yearOfEra / 100)
  let shiftedMonth := (5 * dayOfYear + 2) / 153
  let day := dayOfYear - (153 * shiftedMonth + 2) / 5 + 1
  let month := if shiftedMonth < 10 then shiftedMonth + 3 else shiftedMonth - 9
  let year := (yearOfEra : Int) + era * 400 + (if month ≤ 2 then 1 else 0)
  (year, month, day)

/-- The proleptic year of a number of whole seconds since the start of 1970. -/
def yearOfSeconds (seconds : Int) : Int := (civilOfDays (seconds / 86400)).1

/-- A natural with zeros in front, up to a width. -/
def padded (width n : Nat) : String :=
  let digits := toString n
  "".pushn '0' (width - digits.length) ++ digits

/-- The date and the time of day, with fractions of a second in six digits if there are any. -/
def dateTime (t : Instant) : String :=
  let seconds := t.micros / 1000000
  let fraction := (t.micros % 1000000).toNat
  let (year, month, day) := civilOfDays (seconds / 86400)
  let second := (seconds % 86400).toNat
  padded 4 year.toNat ++ "-" ++ padded 2 month ++ "-" ++ padded 2 day ++ "T" ++
    padded 2 (second / 3600) ++ ":" ++ padded 2 (second / 60 % 60) ++ ":" ++
    padded 2 (second % 60) ++ if fraction = 0 then "" else "." ++ padded 6 fraction

/-- The date and the time of day with the offset zero. -/
def iso (t : Instant) : String := t.dateTime ++ "+00:00"

/-- The date and the time of day with the letter for the offset zero, as it stands in logs. -/
def stamp (t : Instant) : String := t.dateTime ++ "Z"

end Instant

end RuleFixtures
