import RuleFixtures.Backend.Envelope
import RuleFixtures.Config.RunConfig
import RuleFixtures.Gateway
import RuleFixtures.Session

/-!
The client of a metrics backend.

Every call sends one request, and is not repeated when it fails. A token is read from its file
for every request, so that a new token is taken up at once; without a token file the credentials
in the address authorize the request.

* `Client.ofConfig` makes a client of a configuration that is valid.
* `Client.fetch` is one call: it sends the request and takes the data out of the answer.
* `Client.gateway` is the client as a gateway, whose results are decoded.
-/

namespace RuleFixtures

/-- A client with its configuration. -/
structure Client where
  config : RunConfig
  userAgent : String
  deriving DecidableEq

/-- The path of what is asked, behind the address of the backend. -/
def Operation.path : Operation → String
  | .rules => "/api/v1/rules"
  | .query _ => "/api/v1/query"
  | .queryRange _ => "/api/v1/query_range"

namespace Client

variable {β : Type} [Platform]

/-! ### Making a client -/

/-- The name by which the client presents itself. -/
def defaultUserAgent : String := "promtestgen/0.1.0"

/-- Checks that a text can stand in a header: all its characters are in ASCII. -/
def checkHeader (text : String) : Except HeaderFault Unit :=
  let isPlain (c : Char) : Bool := c.toNat < 0x80
  let s := text.toList
  match s.dropWhile isPlain with
  | [] => .ok ()
  | first :: rest =>
    .error ⟨first, (s.takeWhile isPlain).length, 1 + (rest.takeWhile fun c => !isPlain c).length⟩

/-- The name of a file that is set; an empty name sets none. -/
def namedFile (name : Option String) : Option String := name.filter (· ≠ "")

/-- Checks that the file of trusted authorities is there and lists some, if it is needed. -/
def checkAuthorities (config : RunConfig) (files : Files) : Except Fault Unit :=
  match namedFile config.caFile with
  | some name =>
    if config.insecure then .ok ()
    else match files.bytes name with
      | .ok content => match Platform.authoritiesFault? content with
        | none => .ok ()
        | some (kind, text) => .error (.foreign kind text)
      | .error fault => .error (.file { fault with path := none })
  | none => .ok ()

/-- The client of a configuration, which is checked first. -/
def ofConfig (config : RunConfig) (userAgent : String) (files : Files) : Except Fault Client := do
  let config ← config.validate
  checkAuthorities config files
  (checkHeader userAgent).mapError .header
  return ⟨config, userAgent⟩

/-! ### Requests -/

/-- The address of what is asked: slashes at the end of the address of the backend do not
count. -/
def url (client : Client) (operation : Operation) : String :=
  String.ofList ((client.config.url.toList.reverse.dropWhile (· = '/')).reverse) ++ operation.path

/-- Removes the line breaks at both ends of a token. -/
def trimToken (token : String) : String :=
  String.ofList (Text.trimList (· = '\n') token.toList)

/-- What authorizes a request: the token in its file, or else the credentials in the address. -/
def authorization (client : Client) (files : Files) (address : WebAddress) :
    Except ReadFault (Option String) :=
  match namedFile client.config.tokenFile with
  | some name => (files.read name).map fun token => some ("Bearer " ++ trimToken token)
  | none => .ok (address.basicCredentials?.map ("Basic " ++ ·))

/-- The address of a request with its parameters, if it has any. -/
def target (url : String) (parameters : Option (List (String × Json))) :
    Except AddressPart WebAddress := do
  let address ← WebAddress.read url
  let address ← address.resolve
  match parameters with
  | some pairs => address.withParameters (pairs.map fun (name, value) => (name, value.display))
  | none => return address

/-- Sends a request. -/
def send (transport : Transport β) (request : Request) : Act (Session β) Delivery := fun session =>
  let (delivery, backend) := (transport request).run session.backend
  (.ok delivery, { session with backend })

/-- The fault of a token file: what the file system says is a problem of the operation, a content
that is no text is not. -/
def tokenFault (problem : AnswerProblem → Fault) : ReadFault → Fault
  | .file fault => problem (.unreachable fault.message)
  | .broken fault => .broken fault

/-- The fault of an answer: a document that is nested too deep is no problem of the operation. -/
def answerFault (problem : AnswerProblem → Fault) : AnswerFault → Fault
  | .problem p => problem p
  | .tooDeep inObject => .nesting inObject

/-- Sends a request for what is asked, and takes the data out of the answer. -/
def fetch (client : Client) (transport : Transport β) (operation : Operation)
    (parameters : Option (List (String × Json))) : Act (Session β) Json := do
  let url := client.url operation
  let problem (p : AnswerProblem) : Fault := .failure (.answer operation url p)
  Act.log (.requestSent url parameters)
  let address ← Act.ofExcept ((target url parameters).mapError fun part => .address (.refused part))
  let authorization ← Act.ofExcept ((client.authorization (← Session.currentFiles) address).mapError
    (tokenFault problem))
  match ← send transport ⟨address, authorization, client.userAgent, client.config.timeout⟩ with
  | .answered answer => Act.ofExcept (answer.data.mapError (answerFault problem))
  | .failed reason => do
    Act.log (.requestFailed url reason)
    Act.fail (problem (.unreachable reason))
  | .broken reason => Act.fail (problem (.unreachable reason))
  | .raised fault => Act.fail fault

/-! ### Decoding -/

/-- Does the fault say that the data cannot be decoded? Values that are no objects where members
are asked for, and numbers out of range, are told as they are. -/
def isUndecodable (operation : Operation) : Fault → Bool
  | .shape (.noOperation _ _) => false
  | .shape .shortList => operation ≠ .rules
  | .shape .shortText => operation ≠ .rules
  | .shape _ => true
  | .range (.year _) => true
  | .range .timeNotNumber => true
  | _ => false

/-- The result of decoding, with a fault told as a failure of the operation. -/
def decoded {α : Type} (operation : Operation) (result : Except Fault α) : Except Fault α :=
  result.mapError fun fault =>
    if isUndecodable operation fault then .failure (.undecodable operation fault.message) else fault

/-- The rule groups that are loaded. -/
def ruleGroups (client : Client) (transport : Transport β) : Act (Session β) (List RuleGroup) := do
  let data ← client.fetch transport .rules none
  Act.ofExcept (decoded .rules ((RuleGroup.decodeAll data).mapError .shape))

/-- The result of a query at an instant. -/
def query (client : Client) (transport : Transport β) (expr : String) (time : Instant) :
    Act (Session β) QueryResult := do
  let data ← client.fetch transport (.query expr)
    (some [("query", .text expr), ("time", .float time.seconds)])
  Act.ofExcept (decoded (.query expr) (QueryResult.decode data))

/-- The result of a query from a start to an end at a step. -/
def queryRange (client : Client) (transport : Transport β) (expr : String)
    (start finish : Instant) (step : Duration) : Act (Session β) QueryResult := do
  let data ← client.fetch transport (.queryRange expr)
    (some [("query", .text expr), ("start", .float start.seconds), ("end", .float finish.seconds),
      ("step", .float step.seconds)])
  Act.ofExcept (decoded (.queryRange expr) (QueryResult.decode data))

/-- The client as a gateway. -/
def gateway (client : Client) (transport : Transport β) : Gateway (Session β) where
  ruleGroups := client.ruleGroups transport
  query := client.query transport
  queryRange := client.queryRange transport

end Client

end RuleFixtures
