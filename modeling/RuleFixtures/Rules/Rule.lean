import RuleFixtures.Labels

/-!
Rules as the backend lists them.

* `Rule` is a recording or an alerting rule; `RuleGroup` is a group of them.
* `Rule.decode` and `RuleGroup.decodeAll` read the backend's documents. Names, expressions and
  label values are taken over as they are.
-/

namespace RuleFixtures

/-- The two kinds of rules. -/
inductive RuleKind where
  | alerting
  | recording
  deriving DecidableEq, Repr

/-- The name of a kind. -/
def RuleKind.name : RuleKind → String
  | .alerting => "alerting"
  | .recording => "recording"

/-- A rule. -/
structure Rule where
  kind : RuleKind
  name : Json
  query : Json
  labels : Labels
  deriving DecidableEq

/-- A group of rules. -/
structure RuleGroup where
  name : Json
  rules : List Rule
  deriving DecidableEq

/-- The kind that a value names. -/
def RuleKind.decode (value : Json) : Except ShapeFault RuleKind :=
  if value = .text "alerting" then .ok .alerting
  else if value = .text "recording" then .ok .recording
  else .error (.unknownRuleType value.inspect)

/-- Decodes a rule. -/
def Rule.decode (raw : Json) : Except ShapeFault Rule := do
  let kind ← RuleKind.decode ((← raw.get "type").getD .null)
  let name ← raw.need "name"
  let query ← raw.need "query"
  let labels ← Labels.ofJsonOrNone (← raw.get "labels")
  return ⟨kind, name, query, labels⟩

/-- Decodes rules in order. -/
def Rule.decodeAll : List Json → Except ShapeFault (List Rule)
  | [] => .ok []
  | raw :: rest => do
    let rule ← Rule.decode raw
    return rule :: (← Rule.decodeAll rest)

/-- Decodes a group; one without a name has the empty name. -/
def RuleGroup.decode (raw : Json) : Except ShapeFault RuleGroup := do
  let name := (← raw.get "name").getD (.text "")
  let rules ← Json.elementsOrNone (← raw.get "rules")
  return ⟨name, ← Rule.decodeAll rules⟩

/-- Decodes groups in order. -/
def RuleGroup.decodeList : List Json → Except ShapeFault (List RuleGroup)
  | [] => .ok []
  | raw :: rest => do
    let group ← RuleGroup.decode raw
    return group :: (← RuleGroup.decodeList rest)

/-- Decodes the data member of a rules answer. -/
def RuleGroup.decodeAll (data : Json) : Except ShapeFault (List RuleGroup) := do
  let groups ← Json.elementsOrNone (← data.get "groups")
  RuleGroup.decodeList groups

end RuleFixtures
