import RuleFixtures.Fixtures.Fixture
import RuleFixtures.Yaml.Writer

/-!
Unit-test files.

* `TestFile.toJson` is a file as a document, `TestFile.render` its YAML text.
-/

namespace RuleFixtures

/-- The contents of a unit-test file. Fixtures are written in the order given. -/
structure TestFile where
  tests : List Fixture
  evaluationInterval : Duration := .ofMinutes 1
  ruleFiles : List String := []
  deriving DecidableEq

namespace TestFile

/-- A file as a document. -/
def toJson (file : TestFile) : Json :=
  .object
    [("rule_files", .list (file.ruleFiles.map .text)),
     ("evaluation_interval", .text (DurationText.write file.evaluationInterval)),
     ("tests", .list (file.tests.map Fixture.toJson))]

/-- The text of a file. -/
def render (file : TestFile) : String := Yaml.document file.toJson

end TestFile

end RuleFixtures
