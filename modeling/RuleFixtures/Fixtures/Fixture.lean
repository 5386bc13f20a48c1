import RuleFixtures.Json.Order
import RuleFixtures.Number.Shortest
import RuleFixtures.Time.DurationText

/-!
Fixtures: test groups of a unit-test file.

* `InputSeries` is a row of values by series key, `ExpectedSample` a value by series key.
* `Fixture` puts the rows and one expression with its expected samples together.
* `Fixture.toJson` is the fixture as a document.
-/

namespace RuleFixtures

/-- An input series of a test group: its key, and a value per interval with blanks between them. -/
structure InputSeries where
  series : Json
  values : String
  deriving DecidableEq

/-- A sample that is expected of an expression. -/
structure ExpectedSample where
  labels : Json
  value : Binary64
  deriving DecidableEq

/-- An expression evaluated at a time after the start of the test. -/
structure ExpressionTest where
  expr : Json
  evalTime : Duration
  expected : List ExpectedSample
  deriving DecidableEq

/-- A test group: input series at an interval, and an expression test. -/
structure Fixture where
  interval : Duration
  inputSeries : List InputSeries
  test : ExpressionTest
  deriving DecidableEq

/-- An input series as a document. -/
def InputSeries.toJson (row : InputSeries) : Json :=
  .object [("series", row.series), ("values", .text row.values)]

/-- An expected sample as a document. -/
def ExpectedSample.toJson (sample : ExpectedSample) : Json :=
  .object [("labels", sample.labels), ("value", .float sample.value)]

/-- An expression test as a document. -/
def ExpressionTest.toJson (test : ExpressionTest) : Json :=
  .object
    [("expr", test.expr), ("eval_time", .text (DurationText.write test.evalTime)),
     ("exp_samples", .list (test.expected.map ExpectedSample.toJson))]

/-- A fixture as a document. -/
def Fixture.toJson (fixture : Fixture) : Json :=
  .object
    [("interval", .text (DurationText.write fixture.interval)),
     ("input_series", .list (fixture.inputSeries.map InputSeries.toJson)),
     ("promql_expr_test", .list [fixture.test.toJson])]

end RuleFixtures
