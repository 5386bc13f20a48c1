import RuleFixtures.Proofs.Backend.Envelope
import RuleFixtures.Proofs.Backend.Sessions
import RuleFixtures.Proofs.Writing

/-!
What authorizes the requests of a client while its token file changes.

A transport is recorded to see which requests it gets. Between the calls of the client its token
file is written and removed.

* `Client.Call` is a call of the client with its arguments, `Client.Happening` a call or a change of
  the token file.
* `Call.make_apply`: a call fetches data and decodes them. `Call.make_of_request` and
  `Call.make_of_fault` say what it does if its request can be made, and if not.
* `Happening.contentAfter` is what the token file holds after a happening. `Client.holds_undergo` is
  the step of a run, `Client.holds_undergoAll` follows for every sequence.
* `Client.tokensSent` lists what authorizes the requests of a run, call by call.
* `Client.TokenCurrent` describes the calls after a run, `Client.authorized_currently` proves it.
-/

namespace RuleFixtures

variable {β : Type}

/-- A transport that lists the requests it gets. -/
def Transport.recorded (transport : Transport β) : Transport (β × List Request) :=
  fun request state =>
    let (delivery, backend) := (transport request).run state.1
    (delivery, backend, state.2 ++ [request])

lemma Transport.run_recorded (transport : Transport β) (request : Request)
    (state : β × List Request) :
    (transport.recorded request).run state =
      (((transport request).run state.1).1, ((transport request).run state.1).2,
        state.2 ++ [request]) :=
  rfl

/-- An address without user information carries no credentials. -/
lemma WebAddress.basicCredentials?_of_userInfo {address : WebAddress} (h : address.userInfo = "") :
    address.basicCredentials? = none := by
  have hempty : Text.Percent.unquote [] = [] := by
    simp [Text.Percent.unquote, Text.Percent.bytes, Text.Utf8.decodeLossy, Text.Utf8.scan]
  simp [basicCredentials?, h, hempty]

namespace Client

/-! ### A call -/

/-- A call of a client. -/
inductive Call where
  | ruleGroups
  | query (expr : String) (time : Instant)
  | queryRange (expr : String) (start finish : Instant) (step : Duration)
  deriving DecidableEq

namespace Call

/-- What is asked. -/
def operation : Call → Operation
  | ruleGroups => .rules
  | query expr _ => .query expr
  | queryRange expr _ _ _ => .queryRange expr

/-- The parameters of its request. -/
def parameters : Call → Option (List (String × Json))
  | ruleGroups => none
  | query expr time => some (queryParameters expr time)
  | queryRange expr start finish step => some (rangeParameters expr start finish step)

/-- What is made of the data of an answer. -/
def decode (data : Json) : Call → Except Fault (List RuleGroup ⊕ QueryResult)
  | ruleGroups => (decoded .rules ((RuleGroup.decodeAll data).mapError .shape)).map .inl
  | query expr _ => (decoded (.query expr) (QueryResult.decode data)).map .inr
  | queryRange expr _ _ _ => (decoded (.queryRange expr) (QueryResult.decode data)).map .inr

/-- Makes the call. -/
def make [Platform] (client : Client) (transport : Transport β) (call : Call) :
    Act (Session β) (List RuleGroup ⊕ QueryResult) :=
  match call with
  | ruleGroups => do return .inl (← client.ruleGroups transport)
  | query expr time => do return .inr (← client.query transport expr time)
  | queryRange expr start finish step => do
    return .inr (← client.queryRange transport expr start finish step)

/-- What fetches and decodes leaves the state that the fetching leaves. -/
lemma decoding_apply {σ α γ : Type} (fetch : Act σ Json) (decode : Json → Except Fault α)
    (f : α → γ) (s : σ) :
    (do
      let a ← (do Act.ofExcept (decode (← fetch)) : Act σ α)
      return f a : Act σ γ) s =
        ((fetch s).1 >>= fun data => (decode data).map f, (fetch s).2) := by
  rw [Act.bind_apply, Act.bind_apply]
  rcases fetch s with ⟨fault | data, next⟩
  · rfl
  · simp only [Act.ofExcept]
    change _ = ((decode data).map f, next)
    cases decode data <;> rfl

section Make

variable [Platform] (client : Client) (transport : Transport β) (call : Call) (session : Session β)

/-- A call fetches data and decodes them. -/
lemma make_apply : call.make client transport session =
    ((client.fetch transport call.operation call.parameters session).1 >>= (decode · call),
      (client.fetch transport call.operation call.parameters session).2) := by
  cases call with
  | ruleGroups => exact decoding_apply _ _ _ _
  | query expr time => exact decoding_apply _ _ _ _
  | queryRange expr start finish step => exact decoding_apply _ _ _ _

variable {session}

/-- A call whose request can be made sends it and decodes what comes back. -/
lemma make_of_request {request : Request}
    (h : client.request call.operation call.parameters session.files = .ok request) :
    (call.make client transport session).1 =
        (client.unpack call.operation ((transport request).run session.backend).1 >>=
          (decode · call)) ∧
      (call.make client transport session).2.backend =
        ((transport request).run session.backend).2 := by
  rw [make_apply, fetch_apply, delivery, backend_fetch, h]
  exact ⟨rfl, rfl⟩

/-- A call whose request cannot be made sends nothing and ends with the fault. -/
lemma make_of_fault {fault : Fault}
    (h : client.request call.operation call.parameters session.files = .error fault) :
    (call.make client transport session).1 = .error fault ∧
      (call.make client transport session).2.backend = session.backend := by
  rw [make_apply, fetch_apply, delivery, backend_fetch, h]
  exact ⟨rfl, rfl⟩

end Make

end Call

section Fetch

variable [Platform] (client : Client) (transport : Transport β) (session : Session β)

omit [Platform] in
/-- The files and all that is equal is not told apart by calls. -/
lemma indistinct_files (files : Files) :
    Session.Indistinct fun s t : Session β => s = t ∧ s.files = files where
  files _ _ h := congrArg Session.files h.1
  backend _ _ h := congrArg Session.backend h.1
  record event s _ h := ⟨congrArg _ h.1, (record_files_backend s event).1.trans h.2⟩
  goOn _ _ _ h := ⟨by rw [h.1], h.2⟩

/-- Calls leave the files as they are. -/
lemma files_fetch (operation : Operation) (parameters : Option (List (String × Json))) :
    (client.fetch transport operation parameters session).2.files = session.files := by
  have hagree : Act.Agree (fun s t => s = t ∧ s.files = session.files) Eq Eq
      (client.fetch transport operation parameters) (client.fetch transport operation parameters) :=
    client.agree_fetch (indistinct_files session.files) (fun _ => rfl) transport operation
      parameters
  exact (hagree session session ⟨rfl, rfl⟩).2.2

lemma files_make (call : Call) :
    (call.make client transport session).2.files = session.files := by
  rw [call.make_apply, ← client.files_fetch transport session call.operation call.parameters]

end Fetch

/-! ### The request of a call -/

section Request

variable [Platform] {client : Client} {operation : Operation}
  {parameters : Option (List (String × Json))} {address : WebAddress} {files : Files}

/-- A request at an address that is not refused is made with what authorizes it. -/
lemma request_of_target (h : target (client.url operation) parameters = .ok address)
    (files : Files) :
    client.request operation parameters files =
      ((client.authorization files address).mapError (tokenFault fun problem =>
        .failure (.answer operation (client.url operation) problem))).map fun authorization =>
          ⟨address, authorization, client.userAgent, client.config.timeout⟩ := by
  rw [request, h]
  change (client.authorization files address).mapError _ >>= _ = _
  cases client.authorization files address <;> rfl

omit [Platform] in
/-- It carries the token that is read. -/
lemma authorization_of_token {name token : String}
    (hname : namedFile client.config.tokenFile = some name) (hread : files.read name = .ok token) :
    client.authorization files address = .ok (some ("Bearer " ++ trimToken token)) := by
  rw [authorization, hname]
  simp only [hread]
  rfl

omit [Platform] in
/-- Without a token that is read there is none. -/
lemma authorization_of_fault {name : String} {fault : ReadFault}
    (hname : namedFile client.config.tokenFile = some name)
    (hread : files.read name = .error fault) :
    client.authorization files address = .error fault := by
  rw [authorization, hname]
  simp only [hread]
  rfl

omit [Platform] in
/-- Without a token file it carries the credentials of the address, if there are any. -/
lemma authorization_of_none (hname : namedFile client.config.tokenFile = none) :
    client.authorization files address =
      .ok (address.basicCredentials?.map ("Basic " ++ ·)) := by
  rw [authorization, hname]

end Request

/-! ### Runs -/

/-- A call, or a change of the token file: any bytes are written to it, or it is removed. -/
inductive Happening where
  | write (content : List UInt8)
  | remove
  | call (call : Call)
  deriving DecidableEq

/-- What the file holds after a happening. -/
def Happening.contentAfter (content? : Option (List UInt8)) : Happening → Option (List UInt8)
  | write content => some content
  | remove => none
  | call _ => content?

/-- What authorizes a request while a file with a content is there, if the content is a text. -/
def bearer? (content : List UInt8) : Option String :=
  (Files.textOf content).toOption.map fun token => "Bearer " ++ trimToken token

/-- What authorizes the request of a happening, if that is a call and the file is there. -/
def Happening.tokens (content? : Option (List UInt8)) : Happening → List String
  | call _ => (content?.bind bearer?).toList
  | _ => []

/-- What authorizes the requests of happenings in turn. -/
def tokensSent : Option (List UInt8) → List Happening → List String
  | _, [] => []
  | content?, happening :: rest =>
    happening.tokens content? ++ tokensSent (happening.contentAfter content?) rest

/-- Is the address of a call, if it is one, not refused? -/
def Happening.HasTarget [Platform] (client : Client) : Happening → Prop
  | call made => ∃ address, target (client.url made.operation) made.parameters = .ok address
  | _ => True

section Runs

variable [Platform] (client : Client) (transport : Transport β) (name : String)

/-- The session after a happening. -/
def undergo (session : Session β) : Happening → Session β
  | .write content => (Session.changeFiles (fun files => files.writeBytes name content) session).2
  | .remove => (Session.changeFiles (fun files => .ok (files.erase name)) session).2
  | .call call => (call.make client transport session).2

/-- The session after several. -/
def undergoAll (session : Session β) (happenings : List Happening) : Session β :=
  happenings.foldl (client.undergo transport name) session

/-- A step of a run: the file holds what was written last, until it is removed. -/
lemma holds_undergo {session : Session β} {content? : Option (List UInt8)}
    (h : session.files.Holds name content?) (happening : Happening) :
    (client.undergo transport name session happening).files.Holds name
      (happening.contentAfter content?) := by
  cases happening with
  | write content =>
    obtain ⟨written, hwritten, hholds⟩ := h.writeBytes content
    rw [undergo, Session.changeFiles, hwritten]
    exact hholds
  | remove => exact h.erase
  | call call =>
    rw [undergo, files_make]
    exact h

/-- So it does after a run. -/
theorem holds_undergoAll {session : Session β} {content? : Option (List UInt8)}
    (h : session.files.Holds name content?) (happenings : List Happening) :
    (client.undergoAll transport name session happenings).files.Holds name
      (happenings.foldl Happening.contentAfter content?) := by
  induction happenings generalizing session content? with
  | nil => exact h
  | cons happening rest ih => exact ih (client.holds_undergo transport name h happening)

end Runs

/-! ### Calls with a token file -/

section TokenFile

variable [Platform] {client : Client} (transport : Transport β) {name : String}
  (hname : namedFile client.config.tokenFile = some name)
  {session : Session (β × List Request)} {call : Call} {address : WebAddress}

include hname

/-- A call with a token to be read sends it. -/
lemma sent_of_read (haddress : target (client.url call.operation) call.parameters = .ok address)
    {token : String} (hread : session.files.read name = .ok token) :
    ∃ request : Request, request.address = address ∧
      request.authorization = some ("Bearer " ++ trimToken token) ∧
      (call.make client transport.recorded session).2.backend.2 =
        session.backend.2 ++ [request] := by
  have hrequest := request_of_target haddress session.files
  rw [authorization_of_token hname hread] at hrequest
  refine ⟨⟨address, some ("Bearer " ++ trimToken token), client.userAgent, client.config.timeout⟩,
    rfl, rfl, ?_⟩
  rw [(call.make_of_request client transport.recorded hrequest).2, Transport.run_recorded]

/-- Without one it sends nothing and ends with what keeps it from being read. -/
lemma unsent_of_fault (haddress : target (client.url call.operation) call.parameters = .ok address)
    {fault : ReadFault} (hread : session.files.read name = .error fault) :
    (call.make client transport.recorded session).1 =
        .error (tokenFault (fun problem =>
          .failure (.answer call.operation (client.url call.operation) problem)) fault) ∧
      (call.make client transport.recorded session).2.backend = session.backend := by
  have hrequest := request_of_target haddress session.files
  rw [authorization_of_fault hname hread] at hrequest
  exact call.make_of_fault client transport.recorded hrequest

/-- A step of a run sends the token that is there, if it is a call. -/
lemma authorizations_undergo {content? : Option (List UInt8)}
    (h : session.files.Holds name content?) {happening : Happening}
    (htarget : happening.HasTarget client) :
    (client.undergo transport.recorded name session happening).backend.2.map
        Request.authorization =
      session.backend.2.map Request.authorization ++ (happening.tokens content?).map some := by
  cases happening with
  | write content =>
    obtain ⟨written, hwritten, -⟩ := h.writeBytes content
    rw [undergo, Session.changeFiles, hwritten]
    exact (List.append_nil _).symm
  | remove => exact (List.append_nil _).symm
  | call call =>
    obtain ⟨address, haddress⟩ := htarget
    -- the call sends what the file holds, if that is a text, and else nothing
    have htokens : (Happening.call call).tokens content? =
        (((session.files.read name).toOption).map fun token =>
          "Bearer " ++ trimToken token).toList := by
      rw [h.read_eq]
      cases content? <;> rfl
    rw [undergo, htokens]
    cases hread : session.files.read name with
    | error fault =>
      rw [(unsent_of_fault transport hname haddress hread).2]
      exact (List.append_nil _).symm
    | ok token =>
      obtain ⟨request, -, hauthorization, hsent⟩ := sent_of_read transport hname haddress hread
      rw [hsent, List.map_append, List.map_singleton, hauthorization]
      rfl

/-- A run sends the tokens that are there, call by call. -/
theorem authorizations_undergoAll {content? : Option (List UInt8)}
    (h : session.files.Holds name content?) {happenings : List Happening}
    (htargets : ∀ happening ∈ happenings, happening.HasTarget client) :
    (client.undergoAll transport.recorded name session happenings).backend.2.map
        Request.authorization =
      session.backend.2.map Request.authorization ++ (tokensSent content? happenings).map some := by
  induction happenings generalizing session content? with
  | nil => exact (List.append_nil _).symm
  | cons happening rest ih =>
    rw [List.forall_mem_cons] at htargets
    rw [undergoAll, List.foldl_cons, ← undergoAll,
      ih (client.holds_undergo transport.recorded name h happening) htargets.2,
      authorizations_undergo transport hname h htargets.1, tokensSent, List.map_append,
      List.append_assoc]

end TokenFile

/-! ### What calls come to -/

section Alike

variable [Platform] {client : Client} (transport : Transport β)

/-- The request of a call depends on no file but the token file. -/
lemma request_eq_of_read {operation : Operation} {parameters : Option (List (String × Json))}
    {files other : Files}
    (h : ∀ name, namedFile client.config.tokenFile = some name →
      other.read name = files.read name) :
    client.request operation parameters other = client.request operation parameters files := by
  have hauthorization (address : WebAddress) :
      client.authorization other address = client.authorization files address := by
    cases hname : namedFile client.config.tokenFile with
    | none => rw [authorization_of_none hname, authorization_of_none hname]
    | some name =>
      rw [authorization, authorization, hname]
      simp only [h name hname]
  rw [request, request]
  simp only [hauthorization]

/-- What was read or sent before does not matter to a call. -/
lemma alike_of_read {now other : Session (β × List Request)}
    (hread : ∀ name, namedFile client.config.tokenFile = some name →
      other.files.read name = now.files.read name)
    (hbackend : other.backend.1 = now.backend.1) (call : Call) :
    (call.make client transport.recorded other).1 = (call.make client transport.recorded now).1 ∧
      (call.make client transport.recorded other).2.backend.1 =
        (call.make client transport.recorded now).2.backend.1 ∧
      ∃ requests,
        (call.make client transport.recorded now).2.backend.2 = now.backend.2 ++ requests ∧
        (call.make client transport.recorded other).2.backend.2 =
          other.backend.2 ++ requests := by
  have hsame : client.request call.operation call.parameters other.files =
      client.request call.operation call.parameters now.files := request_eq_of_read hread
  cases hrequest : client.request call.operation call.parameters now.files with
  | ok request =>
    obtain ⟨hresult, hafter⟩ := call.make_of_request client transport.recorded hrequest
    obtain ⟨hresult', hafter'⟩ :=
      call.make_of_request client transport.recorded (hsame.trans hrequest)
    rw [hresult, hresult', hafter, hafter', Transport.run_recorded, Transport.run_recorded,
      hbackend]
    exact ⟨rfl, rfl, [request], rfl, rfl⟩
  | error fault =>
    obtain ⟨hresult, hafter⟩ := call.make_of_fault client transport.recorded hrequest
    obtain ⟨hresult', hafter'⟩ :=
      call.make_of_fault client transport.recorded (hsame.trans hrequest)
    rw [hresult, hresult', hafter, hafter']
    exact ⟨rfl, hbackend, [], (List.append_nil _).symm, (List.append_nil _).symm⟩

end Alike

/-- The calls after a run with a token file. -/
structure TokenCurrent [Platform] (client : Client) (transport : Transport β) (name : String)
    (session : Session (β × List Request)) (happenings : List Happening)
    (now : Session (β × List Request)) : Prop where
  /-- The token that is read is the one that was written last, if the file was not removed since. -/
  read_eq : ∀ content?, session.files.Holds name content? →
    now.files.read name =
      Files.reading name (happenings.foldl Happening.contentAfter content?)
  /-- While one is read, a call sends one request with it. -/
  sent : ∀ (call : Call) address token,
    target (client.url call.operation) call.parameters = .ok address →
    now.files.read name = .ok token →
    ∃ request : Request, request.address = address ∧
      request.authorization = some ("Bearer " ++ trimToken token) ∧
      (call.make client transport.recorded now).2.backend.2 = now.backend.2 ++ [request]
  /-- While the file system gives none, a call sends nothing and ends with a failure of its
  category. -/
  unsent : ∀ (call : Call) address fault,
    target (client.url call.operation) call.parameters = .ok address →
    now.files.read name = .error (.file fault) →
    (call.make client transport.recorded now).2.backend = now.backend ∧
      ∃ failure, (call.make client transport.recorded now).1 = .error failure ∧
        failure.IsOf call.operation.category
  /-- While the file is no text, a call sends nothing and ends with what is wrong with its bytes. -/
  unread : ∀ (call : Call) address fault,
    target (client.url call.operation) call.parameters = .ok address →
    now.files.read name = .error (.broken fault) →
    (call.make client transport.recorded now).2.backend = now.backend ∧
      (call.make client transport.recorded now).1 = .error (.broken fault)
  /-- So the requests of the run carry the tokens that were there, call by call. -/
  tokens : ∀ content?, session.files.Holds name content? →
    (∀ happening ∈ happenings, happening.HasTarget client) →
    now.backend.2.map Request.authorization =
      session.backend.2.map Request.authorization ++ (tokensSent content? happenings).map some
  /-- In any other session with the same token and the same backend a call sends and tells the
  same. -/
  alike : ∀ other : Session (β × List Request), other.files.read name = now.files.read name →
    other.backend.1 = now.backend.1 → ∀ call : Call,
    (call.make client transport.recorded other).1 = (call.make client transport.recorded now).1 ∧
      (call.make client transport.recorded other).2.backend.1 =
        (call.make client transport.recorded now).2.backend.1 ∧
      ∃ requests,
        (call.make client transport.recorded now).2.backend.2 = now.backend.2 ++ requests ∧
        (call.make client transport.recorded other).2.backend.2 = other.backend.2 ++ requests

/-- A call of a client without a token file sends one request with the credentials of its address,
and with nothing if the address has no user information. -/
def SendsCredentials [Platform] (client : Client) (transport : Transport β)
    (now : Session (β × List Request)) : Prop :=
  ∀ (call : Call) address, target (client.url call.operation) call.parameters = .ok address →
    ∃ request : Request, request.address = address ∧
      request.authorization = address.basicCredentials?.map ("Basic " ++ ·) ∧
      (address.userInfo = "" → request.authorization = none) ∧
      (call.make client transport.recorded now).2.backend.2 = now.backend.2 ++ [request]

/-- After any changes of the token file, and any calls in between, a call is authorized by the token
that the file holds then. Without a token file only the credentials of the address authorize it. -/
theorem authorized_currently [Platform] (client : Client) (transport : Transport β) (name : String)
    (session : Session (β × List Request)) (happenings : List Happening) :
    (namedFile client.config.tokenFile = some name →
      TokenCurrent client transport name session happenings
        (client.undergoAll transport.recorded name session happenings)) ∧
      (namedFile client.config.tokenFile = none →
        SendsCredentials client transport
          (client.undergoAll transport.recorded name session happenings)) := by
  refine ⟨fun hname => ?_, fun hname call address haddress => ?_⟩
  · exact
      { read_eq := fun content? hholds =>
          (client.holds_undergoAll transport.recorded name hholds happenings).read_eq
        sent := fun call address token haddress hread =>
          sent_of_read transport hname haddress hread
        unsent := fun call address fault haddress hread =>
          have ⟨hresult, hbackend⟩ := unsent_of_fault transport hname haddress hread
          ⟨hbackend, _, hresult, _, rfl, rfl⟩
        unread := fun call address fault haddress hread =>
          have ⟨hresult, hbackend⟩ := unsent_of_fault transport hname haddress hread
          ⟨hbackend, hresult⟩
        tokens := fun content? hholds htargets =>
          authorizations_undergoAll transport hname hholds htargets
        alike := fun other hread => alike_of_read transport fun name' hname' => by
          cases hname.symm.trans hname'
          exact hread }
  · have hrequest := request_of_target haddress
      (client.undergoAll transport.recorded name session happenings).files
    rw [authorization_of_none hname] at hrequest
    refine ⟨⟨address, address.basicCredentials?.map ("Basic " ++ ·), client.userAgent,
      client.config.timeout⟩, rfl, rfl, fun hinfo => ?_, ?_⟩
    · rw [WebAddress.basicCredentials?_of_userInfo hinfo]
      rfl
    · rw [(call.make_of_request client transport.recorded hrequest).2, Transport.run_recorded]

end Client

/-! ### Two clients -/

/-- A client with a token file. -/
def tokenClient : Client where
  config := { url := "http://p:9090", tokenFile := some "token" }
  userAgent := Client.defaultUserAgent

/-- Before any call, without files. -/
def unsentYet : Session (Unit × List Request) where
  files := .empty
  backend := ((), [])

/-- The token file is missing at first, then written three times and removed, with a call each time.
The second content is no text. -/
def rotation : List Client.Happening :=
  [.call .ruleGroups, .write (Text.Utf8.encode "first\n".toList), .call .ruleGroups,
    .write [0xFF, 0xFE], .call .ruleGroups, .write (Text.Utf8.encode "\nsecond\r\n".toList),
    .call .ruleGroups, .remove, .call .ruleGroups]

/-- The requests carry the tokens that were there. -/
theorem tokens_of_rotation :
    Client.namedFile tokenClient.config.tokenFile = some "token" ∧
      (tokenClient.undergoAll (answering (success "\x7b\x7d".toList)).recorded "token" unsentYet
        rotation).backend.2.map Request.authorization =
          [some "Bearer first", some "Bearer second"] := by
  have hholds : unsentYet.files.Holds "token" none := ⟨["token"], by decide, by decide, rfl⟩
  have htarget : Client.Happening.HasTarget tokenClient (.call .ruleGroups) :=
    ⟨⟨"http", "", "p", some 9090, "/api/v1/rules", none, none⟩, by decide +kernel⟩
  have htargets : ∀ happening ∈ rotation, happening.HasTarget tokenClient := by
    simp only [rotation, List.forall_mem_cons]
    exact ⟨htarget, trivial, htarget, trivial, htarget, trivial, htarget, trivial, htarget, by simp⟩
  have hcurrent := (Client.authorized_currently tokenClient
    (answering (success "\x7b\x7d".toList)) "token" unsentYet rotation).1 (by decide)
  refine ⟨by decide, (hcurrent.tokens none hholds htargets).trans ?_⟩
  decide +kernel

/-- A client whose address carries a name and a password. -/
def credentialClient : Client where
  config := { url := "http://user:pw@p" }
  userAgent := Client.defaultUserAgent

/-- A client with a token file whose address is refused when it is called. -/
def refusedClient : Client where
  config := { url := "http://p:abc", tokenFile := some "token" }
  userAgent := Client.defaultUserAgent

/-- Requests may be authorized without a token file, by the address. And a call whose address is
refused ends with no failure of its category when the token file is missing. -/
theorem authorized_without_token :
    Client.ofConfig credentialClient.config Client.defaultUserAgent .empty = .ok credentialClient ∧
      Client.namedFile credentialClient.config.tokenFile = none ∧
      (Client.Call.make credentialClient (answering (success "\x7b\x7d".toList)).recorded
        .ruleGroups unsentYet).2.backend.2.map Request.authorization =
          [some "Basic dXNlcjpwdw=="] ∧
      Client.ofConfig refusedClient.config Client.defaultUserAgent .empty = .ok refusedClient ∧
      unsentYet.files.read "token" = .error (.file ⟨.notFound, some "token"⟩) ∧
      ∃ fault, (Client.Call.make refusedClient (answering (success "\x7b\x7d".toList)).recorded
          .ruleGroups unsentYet).1 = .error fault ∧
        ¬ fault.IsOf Client.Call.ruleGroups.operation.category := by
  refine ⟨by decide +kernel, by decide, by decide +kernel, by decide +kernel, by decide,
    .address (.refused (.port "'abc'")), by decide +kernel, ?_⟩
  rintro ⟨_, ⟨⟩, _⟩

end RuleFixtures
