import RuleFixtures.Fixtures.Fixture
import RuleFixtures.Fixtures.SampleText
import RuleFixtures.Query.Result

/-!
Rows of values on the grid of steps from the start of a window.

* `slotOf` rounds the distance of a sample from the start to whole steps, a half to the even
  neighbour.
* `rowValues` puts every sample into its slot; the first sample of a slot stays, samples outside
  the row are dropped, and slots without a sample hold the mark of a missing value.
* `assemble` makes a row of every series, in the order of their keys.
-/

namespace RuleFixtures

/-- The mark of a missing value. -/
def missingValue : String := "_"

/-- The number of the step nearest to an instant. -/
def slotOf (start : Instant) (step : Duration) (time : Instant) : Except RangeFault Int :=
  match (time.since start).ratio? step with
  | none => .error .divisionByZero
  | some quotient => .ok (quotient.roundToInt?.getD 0)

/-- Puts a value into a slot that is in the row and still misses one. -/
def fillSlot (values : List String) (slot : Int) (text : String) : List String :=
  if slot < 0 then values
  else if values[slot.toNat]? = some missingValue then values.set slot.toNat text else values

/-- Puts samples into their slots, in order. -/
def fillSlots (start : Instant) (step : Duration) (values : List String) :
    List Sample → Except RangeFault (List String)
  | [] => .ok values
  | sample :: rest => do
    let slot ← slotOf start step sample.time
    fillSlots start step (fillSlot values slot (SampleText.write sample.value)) rest

/-- The values of a row, one per slot. -/
def rowValues (samples : List Sample) (start : Instant) (step : Duration) (slots : Nat) :
    Except RangeFault (List String) :=
  fillSlots start step (List.replicate slots missingValue) samples

/-- Samples by series key, in the order in which the keys came. -/
abbrev SampleHistory := OrderedMap Json (List Sample)

/-- The row of a series. -/
def assembleRow (history : SampleHistory) (start : Instant) (step : Duration) (slots : Nat)
    (key : Json) : Except Fault InputSeries := do
  let values ← (rowValues ((history.get? key).getD []) start step slots).mapError .range
  return ⟨key, String.intercalate " " values⟩

/-- The rows of the series with the given keys. -/
def assembleRows (history : SampleHistory) (start : Instant) (step : Duration) (slots : Nat) :
    List Json → Except Fault (List InputSeries)
  | [] => .ok []
  | key :: rest => do
    let row ← assembleRow history start step slots key
    return row :: (← assembleRows history start step slots rest)

/-- The rows of all series, in the order of their keys. -/
def assemble (history : SampleHistory) (start : Instant) (step : Duration) (slots : Nat) :
    Except Fault (List InputSeries) := do
  let keys ← (Json.sortBy id history.keys).mapError .shape
  assembleRows history start step slots keys

end RuleFixtures
