import RuleFixtures.Time.Instant

/-!
Durations written as counts of units, such as `1h30m`.

* `DurationText.units` lists the units from the year of 365 days to the millisecond.
* `DurationText.write` breaks a duration down, largest unit first; each count but that of years
  is below the next larger unit.
* `DurationText.writeWhole` uses years and weeks only for what they divide.
* `DurationText.read?` reads units in falling order, each at most once.
-/

namespace RuleFixtures.DurationText

/-- The units with their lengths in milliseconds, largest first. -/
def units : List (List Char × Nat) :=
  [("y".toList, 31536000000), ("w".toList, 604800000), ("d".toList, 86400000),
   ("h".toList, 3600000), ("m".toList, 60000), ("s".toList, 1000), ("ms".toList, 1)]

/-- The parts of a number of milliseconds, each unit taking what is left of the larger ones. -/
def writeParts : List (List Char × Nat) → Int → List Char
  | [], _ => []
  | (name, size) :: smaller, ms =>
    (if ms / size = 0 then [] else (toString (ms / size)).toList ++ name) ++
      writeParts smaller (ms % size)

/-- The text of a number of milliseconds. -/
def writeMilliseconds (ms : Int) : String :=
  if ms = 0 then "0s" else String.ofList (writeParts units ms)

/-- The text of a duration. -/
def write (d : Duration) : String := writeMilliseconds d.milliseconds

/-- The parts of a number of milliseconds; a unit longer than a day is passed over unless it
divides what is left. -/
def writeWholeParts : List (List Char × Nat) → Nat → List Char
  | [], _ => []
  | (name, size) :: smaller, ms =>
    if 86400000 < size && ms % size ≠ 0 then writeWholeParts smaller ms
    else
      (if ms / size = 0 then [] else Nat.toDigits 10 (ms / size) ++ name) ++
        writeWholeParts smaller (ms % size)

/-- The text of a number of milliseconds in which years and weeks stand only for what they
divide. -/
def writeWhole (ms : Nat) : String :=
  if ms = 0 then "0s" else String.ofList (writeWholeParts units ms)

/-- The milliseconds of a text made of counts of the given units, in their order and each at
most once. -/
def readParts? : List (List Char × Nat) → List Char → Option Nat
  | [], s => if s.isEmpty then some 0 else none
  | (name, size) :: smaller, s =>
    let count := s.takeWhile Char.isDigit
    let rest := s.dropWhile Char.isDigit
    if !count.isEmpty && rest.takeWhile Char.isAlpha = name then
      (readParts? smaller (rest.drop name.length)).map (Nat.ofDigitChars 10 count 0 * size + ·)
    else readParts? smaller s

/-- The milliseconds of a text made of counts of units. -/
def read? (s : List Char) : Option Nat := if s.isEmpty then none else readParts? units s

end RuleFixtures.DurationText
