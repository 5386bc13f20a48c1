import RuleFixtures.Backend.Client
import RuleFixtures.Proofs.Backend.DecodingFaults
import RuleFixtures.Proofs.Json.Written

/-!
Which faults a call of the client lets through.

A call sends one request, and reads the data of the answer. What goes wrong on the way is told as
a failure of the category of the call, with five exceptions: an address that is refused before
anything is sent, a token file that is no text, what a transport raises on its own, a document that
is nested too deep, and some faults of decoding. A document that has no members where members are
asked for is told as it is, and of the results of queries so are the numbers and times that are too
large.

* `Client.delivery` is what becomes of the request of a call.
* `Escapes` lists the faults that a call lets through.
* `Client.calls_told`: a call gives what it decodes, and of its faults just those that escape are no
  failures of its category.
-/

namespace RuleFixtures

/-- The fault is a failure of a category. -/
def Fault.IsOf (category : Category) (fault : Fault) : Prop :=
  ∃ failure, fault = .failure failure ∧ failure.category = category

/-- The kinds of the faults of decoding that are told as they are. -/
def Operation.leaks : Operation → List String
  | .rules => ["AttributeError"]
  | _ => ["AttributeError", "OverflowError", "OSError"]

variable {α β : Type}

section Escapes

variable [Platform]

/-- The faults that a call lets through, by what becomes of its request. -/
inductive Escapes (operation : Operation) (decode : Json → Except Fault α) :
    Except Fault Delivery → Fault → Prop
  /-- The address is refused, and nothing is sent. -/
  | refused (part : AddressPart) :
    Escapes operation decode (.error (.address (.refused part))) (.address (.refused part))
  /-- The token file is no text, and nothing is sent. -/
  | broken (fault : Text.Utf8.Broken) :
    Escapes operation decode (.error (.broken fault)) (.broken fault)
  /-- The transport raises a fault of another kind. -/
  | raised {fault : Fault} (hother : ¬ fault.IsOf operation.category) :
    Escapes operation decode (.ok (.raised fault)) fault
  /-- An answer comes whose document is nested too deep, whatever its status. -/
  | nested {answer : Answer} {inObject : Bool} (hdata : answer.data = .error (.tooDeep inObject)) :
    Escapes operation decode (.ok (.answered answer)) (.nesting inObject)
  /-- An answer comes whose data are not decoded. -/
  | leaked {answer : Answer} {data : Json} {fault : Fault} (hdata : answer.data = .ok data)
    (hfault : decode data = .error fault) (hkind : fault.kind ∈ operation.leaks) :
    Escapes operation decode (.ok (.answered answer)) fault

/-- What a call tells, by what becomes of its request. -/
structure Told (operation : Operation) (decode : Json → Except Fault α)
    (delivery : Except Fault Delivery) (result : Except Fault α) : Prop where
  /-- A value is what is decoded from the data of an answer. -/
  value_iff : ∀ a, result = .ok a ↔
    ∃ answer data, delivery = .ok (.answered answer) ∧ answer.data = .ok data ∧ decode data = .ok a
  /-- A fault is a failure of the category of the operation, unless it escapes. -/
  escapes_iff : ∀ fault, result = .error fault ∧ ¬ fault.IsOf operation.category ↔
    Escapes operation decode delivery fault

/-! ### The three ends of a call -/

variable {operation : Operation} {decode : Json → Except Fault α}
  {delivery : Except Fault Delivery} {fault : Fault}

/-- At most one fault escapes. -/
lemma Escapes.unique {other : Fault} (h : Escapes operation decode delivery fault)
    (h' : Escapes operation decode delivery other) : fault = other := by
  cases h with
  | refused part =>
    cases h'
    rfl
  | broken _ =>
    cases h'
    rfl
  | raised hother =>
    cases h'
    rfl
  | nested hdata =>
    cases h' with
    | nested hdata' =>
      cases hdata.symm.trans hdata'
      rfl
    | leaked hdata' hfault' hkind' => cases hdata.symm.trans hdata'
  | leaked hdata hfault hkind =>
    cases h' with
    | nested hdata' => cases hdata.symm.trans hdata'
    | leaked hdata' hfault' hkind' =>
      cases hdata.symm.trans hdata'
      exact Except.error.inj (hfault.symm.trans hfault')

/-- The call gives what it decodes. -/
lemma Told.value {answer : Answer} {data : Json} {a : α} (hdata : answer.data = .ok data)
    (hdecoded : decode data = .ok a) :
    Told operation decode (.ok (.answered answer)) (.ok a) where
  value_iff b := by
    constructor
    · rintro ⟨⟩
      exact ⟨answer, data, rfl, hdata, hdecoded⟩
    · rintro ⟨_, _, ⟨⟩, hdata', hdecoded'⟩
      cases hdata.symm.trans hdata'
      exact hdecoded.symm.trans hdecoded'
  escapes_iff fault := by
    refine ⟨nofun, fun h => ?_⟩
    cases h with
    | nested hdata' => cases hdata.symm.trans hdata'
    | leaked hdata' hfault hkind =>
      cases hdata.symm.trans hdata'
      cases hdecoded.symm.trans hfault

/-- The call tells a failure of its category. -/
lemma Told.failure (hfault : fault.IsOf operation.category)
    (hanswered : ∀ answer data, delivery = .ok (.answered answer) → answer.data = .ok data →
      ∃ reason, decode data = .error reason)
    (hescapes : ∀ other, ¬ Escapes operation decode delivery other) :
    Told operation decode delivery (.error fault) where
  value_iff a := by
    refine ⟨nofun, ?_⟩
    rintro ⟨answer, data, hdelivery, hdata, hdecoded⟩
    obtain ⟨reason, hreason⟩ := hanswered answer data hdelivery hdata
    cases hdecoded.symm.trans hreason
  escapes_iff other := by
    constructor
    · rintro ⟨⟨⟩, hother⟩
      exact absurd hfault hother
    · intro h
      exact absurd h (hescapes other)

/-- The call lets a fault through. -/
lemma Told.escape (h : Escapes operation decode delivery fault)
    (hother : ¬ fault.IsOf operation.category) :
    Told operation decode delivery (.error fault) where
  value_iff a := by
    refine ⟨nofun, ?_⟩
    rintro ⟨answer, data, hdelivery, hdata, hdecoded⟩
    subst hdelivery
    cases h with
    | nested hdata' => cases hdata.symm.trans hdata'
    | leaked hdata' hfault hkind =>
      cases hdata.symm.trans hdata'
      cases hdecoded.symm.trans hfault
  escapes_iff other := by
    constructor
    · rintro ⟨⟨⟩, -⟩
      exact h
    · intro h'
      cases h.unique h'
      exact ⟨rfl, hother⟩

end Escapes

/-! ### Faults of decoding -/

/-- The fault is no failure, and it is told as it is just if its kind leaks. -/
def Fault.Sorted (operation : Operation) (fault : Fault) : Prop :=
  (∀ failure, fault ≠ .failure failure) ∧
    (Client.isUndecodable operation fault = false ↔ fault.kind ∈ operation.leaks)

lemma Fault.OfResult.sorted {fault : Fault} {operation : Operation} (hquery : operation ≠ .rules)
    (h : fault.OfResult) : fault.Sorted operation := by
  have hleaks : operation.leaks = ["AttributeError", "OverflowError", "OSError"] := by
    cases operation with
    | rules => exact absurd rfl hquery
    | _ => rfl
  rw [Fault.Sorted, hleaks]
  refine ⟨fun failure hfailure => ?_, ?_⟩
  · subst hfailure
    cases h
  · cases h with
    | shape fault =>
      cases fault <;>
        simp [Client.isUndecodable, Fault.kind, ShapeFault.kind, hquery]
    | _ => simp [Client.isUndecodable, Fault.kind, RangeFault.kind]

/-! ### Calls -/

namespace Client

variable [Platform] (client : Client) (transport : Transport β) (session : Session β)
  (operation : Operation) (parameters : Option (List (String × Json)))

/-- The request of a call, or the fault that keeps it from being sent. -/
def request (files : Files) : Except Fault Request := do
  let address ← (target (client.url operation) parameters).mapError fun part =>
    .address (.refused part)
  let authorization ← (client.authorization files address).mapError
    (tokenFault fun problem => .failure (.answer operation (client.url operation) problem))
  return ⟨address, authorization, client.userAgent, client.config.timeout⟩

/-- What becomes of the request of a call: the outcome of sending it, or the fault that keeps it
from being sent. -/
def delivery : Except Fault Delivery :=
  (client.request operation parameters session.files).map fun request =>
    ((transport request).run session.backend).1

/-- Takes the data out of what comes back. -/
def unpack : Delivery → Except Fault Json
  | .answered answer => answer.data.mapError
    (answerFault fun problem => .failure (.answer operation (client.url operation) problem))
  | .failed reason | .broken reason =>
    .error (.failure (.answer operation (client.url operation) (.unreachable reason)))
  | .raised fault => .error fault

omit [Platform] in
/-- Recording an event changes neither the files nor the backend. -/
lemma record_files_backend (event : Log.Event) :
    (Log.Journal.record event session).files = session.files ∧
      (Log.Journal.record event session).backend = session.backend := by
  simp only [Log.Journal.record]
  split <;> exact ⟨rfl, rfl⟩

/-- A call sends its request and takes the data out of what comes back. -/
lemma fetch_apply : (client.fetch transport operation parameters session).1 =
    client.delivery transport session operation parameters >>= client.unpack operation := by
  obtain ⟨hfiles, hbackend⟩ :=
    record_files_backend session (.requestSent (client.url operation) parameters)
  rw [fetch, delivery, request]
  simp only [Act.bind_apply, Act.log]
  -- a log entry changes neither the files nor the backend
  generalize Log.Journal.record _ session = logged at hfiles hbackend ⊢
  cases target (client.url operation) parameters with
  | error part => rfl
  | ok address =>
    simp only [Act.ofExcept, Session.currentFiles, hfiles, Except.mapError]
    change _ =
      Except.map _ (Except.bind (Except.mapError _ (client.authorization _ address)) _) >>= _
    cases client.authorization session.files address with
    | error fault => rfl
    | ok authorization =>
      simp only [send, hbackend]
      simp only [Except.mapError, Except.map, bind, Except.bind, pure, Except.pure]
      generalize hsent : (transport _).run session.backend = sent
      rcases sent with ⟨delivery, backend⟩
      cases delivery <;> rfl

variable {operation}

/-- The parameters of a query at an instant. -/
def queryParameters (expr : String) (time : Instant) : List (String × Json) :=
  [("query", .text expr), ("time", .float time.seconds)]

/-- The parameters of a query from a start to an end at a step. -/
def rangeParameters (expr : String) (start finish : Instant) (step : Duration) :
    List (String × Json) :=
  [("query", .text expr), ("start", .float start.seconds), ("end", .float finish.seconds),
    ("step", .float step.seconds)]

end Client

/-! ### Four answers -/

/-- A backend that answers every request with the same document. -/
def answering (document : List Char) : Transport Unit := fun _ =>
  pure (.answered ⟨200, Text.Utf8.encode document⟩)

/-- A client without credentials. -/
def plainClient : Client where
  config := { url := "http://p:9090" }
  userAgent := Client.defaultUserAgent

/-- A document that reports success with its data. -/
def success (data : List Char) : List Char :=
  "\x7b\"status\":\"success\",\"data\":".toList ++ data ++ ['\x7d']

end RuleFixtures
