import RuleFixtures.PromQL.Dependencies
import RuleFixtures.Rules.Catalog

/-!
Reports on the metrics that rules read.

A metric is an indirect dependency when a recording rule of that name is loaded, else a direct
one.

* `RuleReport.ofDefinitions` goes through the definitions that share a name and appends what each
  refers to.
* `InspectionReport.ofCatalog` reports on the selected rules in the order of their names, the
  alerting rules first.
-/

namespace RuleFixtures

/-- The expression of a definition, with its labels. -/
structure RuleQuery where
  expression : Json
  labels : Labels
  deriving DecidableEq

/-- What is reported on the rules of one name. -/
structure RuleReport where
  name : Json
  queries : List RuleQuery
  direct : List String
  indirect : List String
  /-- The distinct selectors without a metric name. -/
  unnamed : List String
  deriving DecidableEq

namespace RuleReport

variable [PromQL.Language]

/-- Appends the metrics and selectors of one definition. -/
def extend (catalog : RuleCatalog) (report : RuleReport) (definition : RuleDefinition)
    (deps : PromQL.DependencySet) : RuleReport where
  name := report.name
  queries := report.queries ++ [⟨definition.query, definition.labels⟩]
  direct := report.direct ++ deps.metricNames.filter catalog.isScraped
  indirect := report.indirect ++ deps.metricNames.filter catalog.isRecorded
  unnamed := report.unnamed ++ deps.unnamed.filter fun text => !report.unnamed.contains text

/-- Goes through definitions in order. -/
def extendAll {σ : Type} [Log.Journal σ] (catalog : RuleCatalog) (report : RuleReport) :
    List RuleDefinition → Act σ RuleReport
  | [] => pure report
  | definition :: rest => do
    let deps ← PromQL.extract (fun _ => true) definition.query
    extendAll catalog (report.extend catalog definition deps) rest

/-- The report on the definitions that share a name. -/
def ofDefinitions {σ : Type} [Log.Journal σ] (catalog : RuleCatalog) (name : Json)
    (definitions : List RuleDefinition) : Act σ RuleReport :=
  extendAll catalog ⟨name, [], [], [], []⟩ definitions

/-- The reports on the rules of the given names. -/
def ofNames {σ : Type} [Log.Journal σ] (catalog : RuleCatalog) (table : RuleTable) :
    List Json → Act σ (List RuleReport)
  | [] => pure []
  | name :: rest => do
    let report ← ofDefinitions catalog name ((table.get? name).getD [])
    return report :: (← ofNames catalog table rest)

/-- The reports on the selected rules of a table, in the order of their names. -/
def ofTable {σ : Type} [Log.Journal σ] (catalog : RuleCatalog) (table : RuleTable)
    (select : Json → Bool) : Act σ (List RuleReport) := do
  let names ← Act.ofExcept ((RuleCatalog.sortedNames table).mapError .shape)
  ofNames catalog table (names.filter select)

/-- A report as a document. -/
def toJson (report : RuleReport) : Json :=
  .object
    [("name", report.name),
     ("queries", .list (report.queries.map fun query =>
       .object [("expression", query.expression), ("labels", query.labels.toJson)])),
     ("metrics", .object
       [("direct", .list (report.direct.map .text)),
        ("indirect", .list (report.indirect.map .text)),
        ("unnamed", .list (report.unnamed.map .text))])]

end RuleReport

/-- The reports on all selected rules. -/
structure InspectionReport where
  alertingRules : List RuleReport
  recordingRules : List RuleReport
  deriving DecidableEq

namespace InspectionReport

variable [PromQL.Language]

/-- Reports on the selected rules of a catalog. -/
def ofCatalog {σ : Type} [Log.Journal σ] (catalog : RuleCatalog)
    (selectRecording selectAlerting : Json → Bool) : Act σ InspectionReport := do
  let alerting ← RuleReport.ofTable catalog catalog.alerting selectAlerting
  let recording ← RuleReport.ofTable catalog catalog.recording selectRecording
  return ⟨alerting, recording⟩

/-- A report as a document. -/
def toJson (report : InspectionReport) : Json :=
  .object
    [("alertingRules", .list (report.alertingRules.map RuleReport.toJson)),
     ("recordingRules", .list (report.recordingRules.map RuleReport.toJson))]

end InspectionReport

end RuleFixtures
