import RuleFixtures.Address.Parts
import RuleFixtures.Backend.Request
import RuleFixtures.Demo.Series
import RuleFixtures.Json.Access
import RuleFixtures.Json.Writer
import RuleFixtures.Text.Percent

/-!
A small server to try the program with: it lists its rules and answers instant and range queries
for its own metrics.

* `Demo.Reply.ofTarget` is its reply to what a request asks for.
* `Demo.transport` takes requests to it.
-/

namespace RuleFixtures.Demo

/-- A reply of the server. -/
inductive Reply where
  | document (status : Nat) (body : Json)
  | faulty (fault : Fault)
  /-- The server goes on forever. -/
  | endless

/-! ### Queries -/

/-- Can the character start the name of a metric? -/
def isNameStart (c : Char) : Bool := c.isAlpha || c = '_' || c = ':'

/-- Reads a metric with a number of minutes in brackets; a line feed may follow. -/
def rangeSelector? (query : String) : Option (String × Nat) :=
  let s := query.toList
  let name := s.takeWhile fun c => isNameStart c || c.isDigit
  match name, s.drop name.length with
  | first :: _, '[' :: rest =>
    let digits := rest.takeWhile fun c => (Text.decimalValue? c).isSome
    let tail := rest.drop digits.length
    if isNameStart first && !digits.isEmpty && (tail = "m]".toList || tail = "m]\n".toList) then
      some (String.ofList name, Nat.ofDigitChars 10 (Text.foldDigits digits) 0)
    else none
  | _, _ => none

/-- The first value of a parameter; empty values do not count. -/
def parameter? (parameters : List (String × String)) (name : String) : Option String :=
  (parameters.find? fun (key, value) => key = name && value ≠ "").map Prod.snd

/-- A parameter that is a number. -/
def number (parameters : List (String × String)) (name : String) (default? : Option String) :
    Except Fault Binary64 :=
  match (parameter? parameters name).or default? with
  | some value => (Json.text value).toDouble
  | none => .error (.shape (.missingMember name))

/-- The data for a query at an instant, which is moved back to a whole minute: a metric with
minutes in brackets gives a matrix, any other text a vector. -/
def instantData (parameters : List (String × String)) : Except Fault Json := do
  let query := (parameter? parameters "query").getD ""
  let time ← number parameters "time" (some "0")
  let minute := (time.floorDiv 60).mul (.ofInt 60)
  match rangeSelector? query with
  | some (metric, minutes) => (matrix metric (minutesUpTo minute minutes)).mapError .range
  | none => (vector query minute).mapError .range

/-- The data for a query over a range, unless the range never ends. -/
def rangeData? (parameters : List (String × String)) : Except Fault (Option Json) := do
  let query := (parameter? parameters "query").getD ""
  let start ← number parameters "start" none
  let finish ← number parameters "end" none
  let step ← number parameters "step" (some "60")
  match instants? start finish step with
  | some times => return some (← (matrix query times).mapError .range)
  | none => return none

/-! ### Replies -/

namespace Reply

/-- A reply with data. -/
def success (data : Json) : Reply :=
  .document 200 (.object [("status", .text "success"), ("data", data)])

/-- The reply to a request for a path that the server does not have. -/
def notFound (path : String) : Reply :=
  .document 404 (.object
    [("status", .text "error"), ("errorType", .text "bad_data"),
     ("error", .text ("Path not found: " ++ path))])

/-- The reply to a request for a path with parameters. -/
def ofPath (path : String) (parameters : List (String × String)) : Reply :=
  if path = "/api/v1/rules" then success rulesData
  else if path = "/api/v1/query" then
    match instantData parameters with
    | .ok data => success data
    | .error fault => .faulty fault
  else if path = "/api/v1/query_range" then
    match rangeData? parameters with
    | .ok (some data) => success data
    | .ok none => .endless
    | .error fault => .faulty fault
  else notFound path

/-- A path without what follows a semicolon in its last segment. -/
def withoutSegmentParameters (path : List Char) : List Char :=
  let last := (path.reverse.takeWhile (· ≠ '/')).reverse
  path.take (path.length - last.length) ++ last.takeWhile (· ≠ ';')

/-- The reply to what a request asks for. -/
def ofTarget (target : String) : Reply :=
  match AddressParts.read target with
  | .ok parts =>
    ofPath (String.ofList (withoutSegmentParameters parts.path.toList))
      (Text.Percent.formPairs parts.query.toList)
  | .error fault => .faulty (.address fault)

/-- What becomes of a request that gets a reply; one that gets none is given up. -/
def delivery : Reply → Delivery
  | .document status body => .answered ⟨status, Text.Utf8.encode body.compact.toList⟩
  | .faulty fault => .raised fault
  | .endless => .failed "timed out"

end Reply

/-- Takes requests to the server, which keeps no state. -/
def transport : Transport Unit := fun request =>
  pure (Reply.ofTarget request.address.target).delivery

end RuleFixtures.Demo
