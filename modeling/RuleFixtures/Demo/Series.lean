import RuleFixtures.Fault
import RuleFixtures.Number.Order

/-!
The rules and the series of the demonstration server.

* `Demo.rulesData` is the listing of its rules.
* `Demo.vector` and `Demo.matrix` are the series of a metric at one and at several instants.
* `Demo.instants?` lists the instants of a range.
-/

namespace RuleFixtures.Demo

/-! ### Rules -/

/-- The rules, in one group. -/
def rulesData : Json :=
  .object [("groups", .list [.object
    [("name", .text "node.rules"), ("file", .text "/etc/prometheus/rules/node.yaml"),
     ("interval", .int 60),
     ("rules", .list
       [.object
         [("type", .text "recording"), ("name", .text "instance:node_cpu:rate1m"),
          ("query", .text "rate(node_cpu_seconds_total\x7bmode!=\"idle\"\x7d[1m])"),
          ("labels", .object [])],
        .object
         [("type", .text "recording"), ("name", .text "job:node_cpu:sum"),
          ("query", .text "sum by (job) (instance:node_cpu:rate1m)"), ("labels", .object [])],
        .object
         [("type", .text "alerting"), ("name", .text "NodeCPUHigh"),
          ("query", .text "job:node_cpu:sum > 0.9"), ("duration", .int 300),
          ("labels", .object [("severity", .text "warning")]),
          ("annotations", .object [("summary", .text "CPU usage is high")])]])]])]

/-! ### Series -/

/-- The labels of a series on a node. -/
def onNode (instanceName : String) : List (String × String) :=
  [("instance", instanceName), ("job", "node"), ("mode", "user")]

/-- The metrics, with the labels of their series. -/
def metrics : List (String × List (List (String × String))) :=
  [("node_cpu_seconds_total", [onNode "node-1", onNode "node-2"]),
   ("instance:node_cpu:rate1m", [onNode "node-1", onNode "node-2"]),
   ("job:node_cpu:sum", [[("job", "node")]])]

/-- The labels of the series of a metric; a metric that is not known has no series. -/
def seriesOf (metric : String) : List (List (String × String)) :=
  ((metrics.find? fun entry => entry.1 = metric).map Prod.snd).getD []

/-- The labels of a series as a document, the name of the metric first. -/
def labelsJson (metric : String) (labels : List (String × String)) : Json :=
  .object (("__name__", .text metric) :: labels.map fun (name, value) => (name, .text value))

/-- The value of a series at an instant: it counts the minutes up to a thousand, from a start that
depends on the place of the series. -/
def sampleValue (place : Nat) (time : Binary64) : Except RangeFault String :=
  match (time.floorDiv 60).truncate? with
  | some minutes => .ok (toString ((place : Int) * 100 + minutes % 1000))
  | none => .error .notNumberToInteger

/-- A pair of an instant and a value. -/
def sample (place : Nat) (time : Binary64) : Except RangeFault Json := do
  return .list [.float time, .text (← sampleValue place time)]

/-- A result of a kind. -/
def result (kind : String) (series : List Json) : Json :=
  .object [("resultType", .text kind), ("result", .list series)]

/-- The series of a metric, each with what a function gives for its place. -/
def withPlaces (metric member : String) (content : Nat → Except RangeFault Json) :
    Except RangeFault (List Json) :=
  (seriesOf metric).zipIdx.mapM fun (labels, place) => do
    return .object [("metric", labelsJson metric labels), (member, ← content place)]

/-- The series of a metric at an instant. -/
def vector (metric : String) (time : Binary64) : Except RangeFault Json :=
  (withPlaces metric "value" fun place => sample place time).map (result "vector")

/-- The series of a metric at several instants. -/
def matrix (metric : String) (times : List Binary64) : Except RangeFault Json :=
  (withPlaces metric "values" fun place => (times.mapM (sample place)).map .list).map
    (result "matrix")

/-! ### Instants -/

/-- The instants of whole minutes up to one, in order. -/
def minutesUpTo (time : Binary64) (count : Nat) : List Binary64 :=
  ((List.range count).map fun (back : Nat) => time.sub (.ofInt (60 * back))).reverse

/-- The room from an instant to an end. -/
def room (start finish : Binary64) : Nat := (finish.rank + 1 - start.rank).toNat

theorem room_lt {start next finish : Binary64} (h : start.le finish = true)
    (hn : start.lt next = true) : room next finish < room start finish := by
  have := Binary64.rank_le_of_le h
  have := Binary64.rank_lt_of_lt hn
  unfold room
  omega

/-- The instants from a start on that are not after an end, a step apart. There is no such list
when a step does not lead to a later instant. -/
def instants? (start finish step : Binary64) : Option (List Binary64) :=
  if h : start.le finish = true then
    if hn : start.lt (start.add step) = true then
      have := room_lt h hn
      (instants? (start.add step) finish step).map (start :: ·)
    else if (start.add step).le finish then none
    else some [start]
  else some []
termination_by room start finish

end RuleFixtures.Demo
