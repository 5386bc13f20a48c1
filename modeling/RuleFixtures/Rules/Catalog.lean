import RuleFixtures.Gateway

/-!
The rules that are loaded, by kind and name.

* `RuleCatalog.ofGroups` files every rule under its name, keeping the order of loading.
* `RuleCatalog.isRecorded` holds of the names of recording rules; a metric of any other name is
  scraped.
* `RuleCatalog.load` asks a backend for its rules, once.
-/

namespace RuleFixtures

/-- A rule with the name of its group; several may share a name. -/
structure RuleDefinition where
  name : Json
  query : Json
  kind : RuleKind
  labels : Labels
  group : Json
  deriving DecidableEq

/-- Definitions by name. -/
abbrev RuleTable := OrderedMap Json (List RuleDefinition)

/-- The rules that are loaded. -/
structure RuleCatalog where
  alerting : RuleTable
  recording : RuleTable
  deriving DecidableEq

namespace RuleCatalog

/-- The catalog without rules. -/
def empty : RuleCatalog := ⟨.empty, .empty⟩

/-- The definitions of a kind. -/
def table (catalog : RuleCatalog) : RuleKind → RuleTable
  | .alerting => catalog.alerting
  | .recording => catalog.recording

/-- Files a definition behind those of its name. -/
def file (table : RuleTable) (definition : RuleDefinition) : RuleTable :=
  table.alter definition.name fun known => known.getD [] ++ [definition]

/-- Takes up a rule of a group. -/
def add (catalog : RuleCatalog) (group : Json) (rule : Rule) : Except ShapeFault RuleCatalog := do
  rule.name.checkHashable
  let definition : RuleDefinition := ⟨rule.name, rule.query, rule.kind, rule.labels, group⟩
  match rule.kind with
  | .alerting => return { catalog with alerting := file catalog.alerting definition }
  | .recording => return { catalog with recording := file catalog.recording definition }

/-- Takes up rules of a group in order. -/
def addAll (group : Json) (catalog : RuleCatalog) : List Rule → Except ShapeFault RuleCatalog
  | [] => .ok catalog
  | rule :: rest => do addAll group (← catalog.add group rule) rest

/-- Takes up groups in order. -/
def addGroups (catalog : RuleCatalog) : List RuleGroup → Except ShapeFault RuleCatalog
  | [] => .ok catalog
  | group :: rest => do addGroups (← addAll group.name catalog group.rules) rest

/-- The catalog of all rules of some groups. -/
def ofGroups (groups : List RuleGroup) : Except ShapeFault RuleCatalog := addGroups empty groups

/-- Is the metric the output of a recording rule? -/
def isRecorded (catalog : RuleCatalog) (metric : String) : Bool :=
  catalog.recording.contains (.text metric)

/-- Is the metric no output of a recording rule? -/
def isScraped (catalog : RuleCatalog) (metric : String) : Bool := !catalog.isRecorded metric

/-- The names of a table, in ascending order. -/
def sortedNames (table : RuleTable) : Except ShapeFault (List Json) := Json.sortBy id table.keys

/-- Loads the rules with a single call of the backend. -/
def load {σ : Type} [Log.Journal σ] (gateway : Gateway σ) : Act σ RuleCatalog := do
  let groups ← gateway.ruleGroups
  let catalog ← Act.ofExcept ((ofGroups groups).mapError .shape)
  Act.log (.catalogLoaded groups.length catalog.alerting.size catalog.recording.size)
  return catalog

end RuleCatalog

end RuleFixtures
