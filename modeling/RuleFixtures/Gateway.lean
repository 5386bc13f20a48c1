import RuleFixtures.Act
import RuleFixtures.Query.Result
import RuleFixtures.Rules.Rule

/-!
What the program asks of a metrics backend.

* `Gateway` offers the listing of rules, instant queries and range queries as steps over a state
  of the backend's own.
-/

namespace RuleFixtures

/-- A metrics backend. -/
structure Gateway (σ : Type) where
  /-- Lists the rule groups that are loaded. -/
  ruleGroups : Act σ (List RuleGroup)
  /-- Evaluates a query at an instant. -/
  query : (expr : String) → (time : Instant) → Act σ QueryResult
  /-- Evaluates a query from a start to an end at a step. -/
  queryRange : (expr : String) → (start finish : Instant) → (step : Duration) → Act σ QueryResult

end RuleFixtures
