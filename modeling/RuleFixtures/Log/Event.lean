import RuleFixtures.Json.Writer
import RuleFixtures.Query.Kind
import RuleFixtures.Time.Instant

/-!
What a run writes to its log.

* `Level` orders the events by weight; `Level.ofName?` reads the name of a threshold.
* `Event` lists what is logged; `Event.document` is an event as a document and `Event.line` its
  line, stamped with a time.
* `Journal` is the class of states that take up events.
-/

namespace RuleFixtures.Log

/-- The weight of an event. -/
inductive Level where
  | debug
  | info
  | warning
  deriving DecidableEq

/-- The name of a level. -/
def Level.name : Level → String
  | .debug => "debug"
  | .info => "info"
  | .warning => "warning"

/-- The rank of a level; thresholds are compared with it. -/
def Level.rank : Level → Nat
  | .debug => 10
  | .info => 20
  | .warning => 30

/-- The thresholds by their names. -/
def thresholds : List (String × Nat) :=
  [("CRITICAL", 50), ("FATAL", 50), ("ERROR", 40), ("WARN", 30), ("WARNING", 30), ("INFO", 20),
   ("DEBUG", 10), ("NOTSET", 0)]

/-- The threshold of a name. -/
def threshold? (name : String) : Option Nat :=
  (thresholds.find? fun entry => entry.1 = name).map Prod.snd

/-- Something worth a line in the log. -/
inductive Event where
  | runConfigured (command url : String)
  /-- A request is sent, with its parameters if it has any. -/
  | requestSent (url : String) (parameters : Option (List (String × Json)))
  | requestFailed (url reason : String)
  | catalogLoaded (groups alerting recording : Nat)
  | unnamedSelectors (expr : String) (selectors : List String)
  | unnamedSelectorsSkipped (rule : Json) (selectors : List String)
  | resultSkipped (query : String) (kind : ResultKind)
  | dependencyFetched (query : String) (newSeries : Nat)
  | fixtureGenerated (rule : Json) (dependencies inputSeries expectedSamples : Nat)
      (alignment : Instant)
  | commandFailed (kind message : String) (exitCode : Nat)
  | commandBroke (kind message : String) (exitCode : Nat)
  | commandInterrupted
  deriving DecidableEq

namespace Event

/-- The level of an event. -/
def level : Event → Level
  | .catalogLoaded .. => .info
  | .unnamedSelectorsSkipped .. => .warning
  | .resultSkipped .. => .warning
  | .fixtureGenerated .. => .info
  | .commandInterrupted => .info
  | _ => .debug

/-- The name of an event. -/
def name : Event → String
  | .runConfigured .. => "run_config"
  | .requestSent .. => "prometheus_request"
  | .requestFailed .. => "prometheus_request_failed"
  | .catalogLoaded .. => "rule_catalog_loaded"
  | .unnamedSelectors .. => "unnamed_selectors"
  | .unnamedSelectorsSkipped .. => "unnamed_selectors_skipped"
  | .resultSkipped .. => "dependency_result_skipped"
  | .dependencyFetched .. => "dependency_fetched"
  | .fixtureGenerated .. => "fixture_generated"
  | .commandFailed .. => "command_error"
  | .commandBroke .. => "unexpected_error"
  | .commandInterrupted => "command_interrupted"

/-- A list of texts as a document. -/
def textList (texts : List String) : Json := .list (texts.map .text)

/-- The fields of an event, in order. -/
def fields : Event → List (String × Json)
  | .runConfigured command url => [("command", .text command), ("url", .text url)]
  | .requestSent url parameters =>
    [("url", .text url), ("params", (parameters.map Json.object).getD .null)]
  | .requestFailed url reason => [("url", .text url), ("error", .text reason)]
  | .catalogLoaded groups alerting recording =>
    [("groups", .int groups), ("alerting", .int alerting), ("recording", .int recording)]
  | .unnamedSelectors expr selectors =>
    [("expr", .text expr), ("selectors", textList selectors)]
  | .unnamedSelectorsSkipped rule selectors => [("rule", rule), ("selectors", textList selectors)]
  | .resultSkipped query kind => [("query", .text query), ("result_type", .text kind.name)]
  | .dependencyFetched query newSeries =>
    [("query", .text query), ("new_series", .int newSeries)]
  | .fixtureGenerated rule dependencies inputSeries expectedSamples alignment =>
    [("rule", rule), ("dependencies", .int dependencies), ("input_series", .int inputSeries),
     ("expected_samples", .int expectedSamples), ("alignment", .text alignment.iso)]
  | .commandFailed kind message exitCode =>
    [("error_type", .text kind), ("message", .text message), ("exit_code", .int exitCode)]
  | .commandBroke kind message exitCode =>
    [("error_type", .text kind), ("message", .text message), ("exit_code", .int exitCode)]
  | .commandInterrupted => []

/-- An event as a document: its fields, its name and its level. -/
def document (event : Event) : Json :=
  .object (event.fields ++ [("event", .text event.name), ("level", .text event.level.name)])

/-- The line of an event, with a time stamp behind its level. -/
def line (event : Event) (stamp : String) : String :=
  Json.compact (.object (event.fields ++ [("event", .text event.name),
    ("level", .text event.level.name), ("timestamp", .text stamp)]))

end Event

/-- States that take up events. -/
class Journal (σ : Type) where
  /-- Takes up an event. -/
  record : Event → σ → σ

/-- A list of events takes up an event at its end. -/
instance : Journal (List Event) := ⟨fun event events => events ++ [event]⟩

end RuleFixtures.Log
