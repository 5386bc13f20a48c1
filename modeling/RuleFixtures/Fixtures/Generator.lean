import RuleFixtures.Fixtures.Accumulator
import RuleFixtures.PromQL.Dependencies
import RuleFixtures.Rules.Catalog

/-!
Making fixtures from what a backend has recorded.

For a recording rule the scraped metrics of all its definitions are found, the rule's own series
over the lookback window give the expected samples and the instant of alignment, and each metric
is queried over the window that ends there. A fault ends the whole run.

* `Generator.dependencyQueries` lists the metrics of a rule.
* `Generator.ownValue` gives the expected samples and the alignment.
* `Generator.history` collects the window of every metric; `Generator.rule` makes a fixture and
  `Generator.all` those of the selected rules in the order of their names.
-/

namespace RuleFixtures

/-- What a generator works with. -/
structure Generator where
  catalog : RuleCatalog
  lookback : Duration := .ofMinutes 5
  step : Duration := .ofMinutes 1
  interval : Duration := .ofMinutes 1

namespace Generator

variable {σ : Type} [PromQL.Language]

/-- The number of values in a row: one per step of the window, both ends included. -/
def slots (g : Generator) : Except RangeFault Int :=
  match g.lookback.ratio? g.step with
  | none => .error .divisionByZero
  | some quotient => .ok (quotient.truncate?.getD 0 + 1)

/-! ### The metrics of a rule -/

/-- Goes through definitions and adds the scraped metrics that are not listed yet. -/
def addQueries [Log.Journal σ] (g : Generator) (name : Json) (queries : List String) :
    List RuleDefinition → Act σ (List String)
  | [] => pure queries
  | definition :: rest => do
    let deps ← PromQL.extract g.catalog.isScraped definition.query
    if !deps.unnamed.isEmpty then Act.log (.unnamedSelectorsSkipped name deps.unnamed)
    addQueries g name (deps.metricNames.foldl PromQL.addDistinct queries) rest

/-- The scraped metrics that the definitions of a recording rule read. -/
def dependencyQueries [Log.Journal σ] (g : Generator) (name : Json) : Act σ (List String) :=
  addQueries g name [] ((g.catalog.recording.get? name).getD [])

/-! ### The rule's own value -/

/-- The query for the recorded series of a rule over the window. -/
def ownQuery (g : Generator) (name : Json) : String :=
  name.display ++ "[" ++ DurationText.write g.lookback ++ "]"

/-- The series of a result, which must be a matrix. -/
def matrixOf (expr : String) : QueryResult → Except Fault (List Stream)
  | .matrix series => .ok series
  | other => .error (.failure (.unexpectedResult other.kind expr))

/-- The latest of the last samples. -/
def latest (first : Sample) (others : List Sample) : Instant :=
  others.foldl (fun t sample => if t.micros < sample.time.micros then sample.time else t) first.time

/-- The expected samples of series with their last samples, in the order of their keys. -/
def expectedSamples (ends : List (Stream × Sample)) : Except ShapeFault (List ExpectedSample) := do
  let samples ← ends.mapM fun (stream, sample) => do
    return (⟨← stream.key, sample.value⟩ : ExpectedSample)
  Json.sortBy ExpectedSample.labels samples

/-- The series that have samples, each with its last one. -/
def withLast (streams : List Stream) : List (Stream × Sample) :=
  streams.filterMap fun stream => stream.last?.map (stream, ·)

/-- The latest recorded values of a rule, and the instant at which the latest was recorded. -/
def ownValue (g : Generator) (gateway : Gateway σ) (name : Json) (now : Instant) :
    Act σ (List ExpectedSample × Instant) := do
  let expr := g.ownQuery name
  let result ← gateway.query expr now
  let streams ← Act.ofExcept (matrixOf expr result)
  match withLast streams with
  | [] => Act.fail (.failure (.noSamples name g.lookback))
  | (stream, sample) :: rest => do
    let alignment := latest sample (rest.map Prod.snd)
    let expected ← Act.ofExcept ((expectedSamples ((stream, sample) :: rest)).mapError .shape)
    return (expected, alignment)

/-! ### The history of the metrics -/

/-- The instant a duration before another, which must be in the calendar. -/
def windowStart (alignment : Instant) (lookback : Duration) : Except RangeFault Instant :=
  let start := alignment.minus lookback
  if start.isRepresentable then .ok start else .error .date

/-- Takes up the series of a result and counts those that are new. -/
def collect (history : Accumulator) (streams : List Stream) :
    Except ShapeFault (Nat × Accumulator) :=
  let (counted, grown) := Accumulator.addStreams history streams
  counted.map (·, grown)

/-- Queries the window of each metric and collects the series. Answers that are no matrix are
skipped. -/
def collectHistory [Log.Journal σ] (g : Generator) (gateway : Gateway σ)
    (start alignment : Instant) (history : Accumulator) : List String → Act σ Accumulator
  | [] => pure history
  | query :: rest => do
    let result ← gateway.queryRange query start alignment g.step
    match result with
    | .matrix streams => do
      let (added, grown) ← Act.ofExcept ((collect history streams).mapError .shape)
      Act.log (.dependencyFetched query added)
      collectHistory g gateway start alignment grown rest
    | other => do
      Act.log (.resultSkipped query other.kind)
      collectHistory g gateway start alignment history rest

/-- The history of the metrics over the window that ends at the alignment. -/
def history [Log.Journal σ] (g : Generator) (gateway : Gateway σ) (queries : List String)
    (alignment : Instant) : Act σ Accumulator := do
  let start ← Act.ofExcept ((windowStart alignment g.lookback).mapError .range)
  collectHistory g gateway start alignment .empty queries

/-! ### Fixtures -/

/-- The rows of a history over the window that ends at the alignment. -/
def inputRows (g : Generator) (history : Accumulator) (alignment : Instant) :
    Except Fault (List InputSeries) := do
  let start ← (windowStart alignment g.lookback).mapError .range
  let slots ← g.slots.mapError .range
  assemble history start g.step slots.toNat

/-- Makes the fixture of a recording rule. -/
def rule [Log.Journal σ] (g : Generator) (gateway : Gateway σ) (name : Json) (now : Instant) :
    Act σ Fixture := do
  let queries ← g.dependencyQueries name
  let (expected, alignment) ← g.ownValue gateway name now
  let history ← g.history gateway queries alignment
  Act.log (.fixtureGenerated name queries.length history.size expected.length alignment)
  let rows ← Act.ofExcept (g.inputRows history alignment)
  return ⟨g.interval, rows, ⟨name, g.lookback, expected⟩⟩

/-- Makes the fixtures of the rules with the given names. -/
def rules [Log.Journal σ] (g : Generator) (gateway : Gateway σ) (now : Instant) :
    List Json → Act σ (List Fixture)
  | [] => pure []
  | name :: rest => do
    let fixture ← g.rule gateway name now
    return fixture :: (← rules g gateway now rest)

/-- Makes the fixtures of the selected recording rules, in the order of their names. -/
def all [Log.Journal σ] (g : Generator) (gateway : Gateway σ) (select : Json → Bool)
    (now : Instant) : Act σ (List Fixture) := do
  let names ← Act.ofExcept ((RuleCatalog.sortedNames g.catalog.recording).mapError .shape)
  g.rules gateway now (names.filter select)

end Generator

end RuleFixtures
