import RuleFixtures.Fixtures.Row

/-!
Collecting the history of series.

The first samples offered for a key are kept; later offers for it change nothing.

* `Accumulator.add` offers the samples of a key, `Accumulator.addStreams` all series of a result.
-/

namespace RuleFixtures

/-- The history collected so far. -/
abbrev Accumulator := SampleHistory

namespace Accumulator

/-- Keeps the samples of a key that has none yet; tells whether they were kept. -/
def offer (history : Accumulator) (key : Json) (samples : List Sample) : Bool × Accumulator :=
  if history.contains key then (false, history) else (true, history.insert key samples)

/-- Offers the samples of a key, which must be one that a map can hold. -/
def add (history : Accumulator) (key : Json) (samples : List Sample) :
    Except ShapeFault (Bool × Accumulator) := do
  key.checkHashable
  return history.offer key samples

/-- Offers the series of a result in order, and counts those that are kept. What was kept before
a fault stays. -/
def addStreams (history : Accumulator) : List Stream → Except ShapeFault Nat × Accumulator
  | [] => (.ok 0, history)
  | stream :: rest =>
    match stream.key.bind fun key => add history key stream.samples with
    | .error fault => (.error fault, history)
    | .ok (isNew, grown) =>
      let (counted, final) := addStreams grown rest
      (counted.map (· + (if isNew then 1 else 0)), final)

end Accumulator

end RuleFixtures
