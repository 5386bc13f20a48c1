import RuleFixtures.Backend.Request
import RuleFixtures.Fault
import RuleFixtures.Json.Bytes

/-!
The envelope around the data of an answer.

An answer is a document with a status, and with data or the text of an error. A status of the
answer itself from 400 to 599 says that the request failed.

* `reasonPhrase` names such a status.
* `Answer.data` takes the data out of an answer, or tells the first thing that is wrong with it; a
  document that is nested deeper than the platform reads has neither.
-/

namespace RuleFixtures

/-- The phrases of the statuses that say that a request failed. -/
def reasonPhrases : List (Nat × String) :=
  [(400, "Bad Request"), (401, "Unauthorized"), (402, "Payment Required"), (403, "Forbidden"),
   (404, "Not Found"), (405, "Method Not Allowed"), (406, "Not Acceptable"),
   (407, "Proxy Authentication Required"), (408, "Request Timeout"), (409, "Conflict"),
   (410, "Gone"), (411, "Length Required"), (412, "Precondition Failed"),
   (413, "Request Entity Too Large"), (414, "Request-URI Too Long"),
   (415, "Unsupported Media Type"), (416, "Requested Range Not Satisfiable"),
   (417, "Expectation Failed"), (418, "I'm a teapot"), (421, "Misdirected Request"),
   (422, "Unprocessable Entity"), (423, "Locked"), (424, "Failed Dependency"),
   (425, "Too Early"), (426, "Upgrade Required"), (428, "Precondition Required"),
   (429, "Too Many Requests"), (431, "Request Header Fields Too Large"),
   (451, "Unavailable For Legal Reasons"), (500, "Internal Server Error"),
   (501, "Not Implemented"), (502, "Bad Gateway"), (503, "Service Unavailable"),
   (504, "Gateway Timeout"), (505, "HTTP Version Not Supported"),
   (506, "Variant Also Negotiates"), (507, "Insufficient Storage"), (508, "Loop Detected"),
   (510, "Not Extended"), (511, "Network Authentication Required")]

/-- The phrase of a status; a status that is not listed has none. -/
def reasonPhrase (status : Nat) : String := (lookupEntry status reasonPhrases).getD ""

namespace Answer

variable [Platform]

/-- Does the status say that the request failed? -/
def isFailure (answer : Answer) : Bool := 400 ≤ answer.status && answer.status ≤ 599

/-- The document of an answer, if it is one; `room` is the number of lists and objects that may
stand one inside the other. -/
def document? (room : Nat) (answer : Answer) : Except AnswerFault (Option Json) :=
  match Json.readBytes room answer.body with
  | .ok document => .ok (some document)
  | .error .malformed => .ok none
  | .error (.tooDeep inObject) => .error (.tooDeep inObject)

/-- The reason for which a request failed: the error in the document if there is one, else the
status with its phrase. It is looked for one step further down than data. -/
def failureReason (answer : Answer) : Except AnswerFault String := do
  let document? ← answer.document? (Platform.nesting - 1)
  match (document?.bind (·.member? "error")).filter Json.isTruthy with
  | some error => return (AnswerProblem.reported error.display).text
  | none => return "HTTP " ++ toString answer.status ++ " " ++ reasonPhrase answer.status

/-- The data of a document: its member of that name, or an empty object in the place of an absent
or empty one. -/
def dataMember (members : List (String × Json)) : Json :=
  ((lookupEntry "data" members).filter Json.isTruthy).getD (.object [])

/-- The data of a document, or the first thing that is wrong with it. -/
def dataOf : Option Json → Except AnswerProblem Json
  | none => .error .notJson
  | some (.object members) =>
    if lookupEntry "status" members = some (.text "success") then .ok (dataMember members)
    else .error (.reported (((lookupEntry "error" members).map Json.display).getD "Unknown error"))
  | some _ => .error .notObject

/-- Takes the data out of an answer. -/
def data (answer : Answer) : Except AnswerFault Json := do
  if answer.isFailure then throw (.problem (.badStatus answer.status (← answer.failureReason)))
  else
    let document? ← answer.document? Platform.nesting
    (dataOf document?).mapError .problem

end Answer

end RuleFixtures
