import RuleFixtures.Proofs.Backend.CurrentToken
import RuleFixtures.Proofs.Demo.Minutes
import RuleFixtures.Proofs.Fixtures.Answered
import RuleFixtures.Proofs.Number.TextLength
import RuleFixtures.Proofs.Text.Form

/-!
The calls of a client that asks the server.

What the client writes into an address is what the server reads from it, and what the server sends
is what the client takes out of the answer.

* `Demo.Reply.ofTarget_path`: a path with parameters is replied to as such.
* `Client.Reaches` holds of clients whose requests get to the server; `Demo.fetch_parameters` is a
  call of such a client, and `Demo.unpack_success` takes the data out of the reply.
* `Demo.gives_query_minutes` and `Demo.gives_queryRange_minutes`: queries give the series of a
  metric at whole minutes.
-/

namespace RuleFixtures

/-! ### Addresses without a host -/

namespace AddressParts

variable {s path query : List Char}

lemma clean_eq_self (h : ∀ c ∈ s, 0x20 < c.toNat) : clean s = s := by
  have hdrop : s.dropWhile (fun c => c.toNat ≤ 0x20) = s := by
    refine List.dropWhile_eq_self_iff.2 fun hlength => ?_
    have hfirst := h s[0] (List.getElem_mem hlength)
    simpa using hfirst
  rw [clean, hdrop, List.filter_eq_self]
  intro c hc
  have hblank := h c hc
  simp only [Bool.and_eq_true, decide_eq_true_eq]
  refine ⟨⟨?_, ?_⟩, ?_⟩ <;> (rintro rfl; revert hblank; decide)

lemma splitScheme_of_notMem (h : ':' ∉ s) : splitScheme s = ([], s) := by
  have htake : s.takeWhile (· ≠ ':') = s := by
    refine List.takeWhile_eq_self_iff.2 fun c hc => decide_eq_true ?_
    rintro rfl
    exact h hc
  rw [splitScheme, htake, List.drop_length]

lemma splitAuthority_of_slash {rest : List Char} (h : rest.head? ≠ some '/') :
    splitAuthority ('/' :: rest) = ([], '/' :: rest) := by
  rw [splitAuthority]
  rintro tail ⟨⟩
  exact h rfl

lemma splitQuery_append (hpath : ∀ c ∈ path, c ≠ '?' ∧ c ≠ '#') (hquery : '#' ∉ query) :
    splitQuery (path ++ '?' :: query) = (path, query) := by
  have hmarks : ∀ c ∈ path, decide (c ≠ '?') = true := fun c hc => decide_eq_true (hpath c hc).1
  have htake : (path ++ '?' :: query).takeWhile (· ≠ '#') = path ++ '?' :: query := by
    refine List.takeWhile_eq_self_iff.2 fun c hc => decide_eq_true ?_
    rintro rfl
    rw [List.mem_append, List.mem_cons] at hc
    obtain hc | hc | hc := hc
    · exact (hpath _ hc).2 rfl
    · cases hc
    · exact hquery hc
  rw [splitQuery, htake, List.takeWhile_append_of_pos hmarks, List.dropWhile_append_of_pos hmarks]
  simp

/-- A path with a query behind it is read as these two. -/
lemma read_path {path : String} {rest : List Char} (hslash : path.toList = '/' :: rest)
    (hone : rest.head? ≠ some '/') (hne : rest ≠ [])
    (hpath : ∀ c ∈ path.toList, 0x20 < c.toNat ∧ c ≠ ':' ∧ c ≠ '?' ∧ c ≠ '#')
    (hquery : ∀ c ∈ query, 0x20 < c.toNat ∧ c ≠ ':' ∧ c ≠ '#') :
    read (path ++ "?" ++ String.ofList query) = .ok ⟨"", "", path, String.ofList query⟩ := by
  have hlist : (path ++ "?" ++ String.ofList query).toList = path.toList ++ '?' :: query := by simp
  have hall : ∀ c ∈ path.toList ++ '?' :: query, 0x20 < c.toNat ∧ c ≠ ':' := by
    intro c hc
    rw [List.mem_append, List.mem_cons] at hc
    obtain hc | rfl | hc := hc
    · exact ⟨(hpath c hc).1, (hpath c hc).2.1⟩
    · decide
    · exact ⟨(hquery c hc).1, (hquery c hc).2.1⟩
  have hauthority : splitAuthority (path.toList ++ '?' :: query) =
      ([], path.toList ++ '?' :: query) := by
    rw [hslash, List.cons_append]
    refine splitAuthority_of_slash ?_
    rwa [List.head?_append_of_ne_nil _ hne]
  rw [read, hlist, clean_eq_self fun c hc => (hall c hc).1,
    splitScheme_of_notMem fun hc => (hall _ hc).2 rfl]
  simp only [hauthority]
  rw [splitQuery_append (fun c hc => (hpath c hc).2.2) fun hc => (hquery _ hc).2.2 rfl,
    String.ofList_toList]
  rfl

end AddressParts

namespace Demo

/-! ### Targets -/

/-- Can the character stand in a path of the server? -/
def isPathChar (c : Char) : Bool := c.isAlphanum || c = '/' || c = '_'

/-- A path of the server: a slash, and behind it something that does not start with another. -/
def isPath (path : List Char) : Bool :=
  path.head? = some '/' && path[1]?.any (· ≠ '/') && path.all isPathChar &&
    Reply.withoutSegmentParameters path = path

lemma isPath_path (operation : Operation) : isPath operation.path.toList = true := by
  cases operation
  all_goals
    rw [Operation.path]
    decide

/-- Neither paths nor queries hold the marks that split an address. -/
lemma isPlain_of_isPathChar {c : Char}
    (hc : isPathChar c = true ∨ Text.Percent.isFormChar c = true) :
    0x20 < c.toNat ∧ c ≠ ':' ∧ c ≠ '?' ∧ c ≠ '#' := by
  have hnone {other : Char}
      (hother : isPathChar other = false ∧ Text.Percent.isFormChar other = false) : c ≠ other := by
    rintro rfl
    rw [hother.1, hother.2] at hc
    simp at hc
  refine ⟨?_, hnone (by decide), hnone (by decide), hnone (by decide)⟩
  by_contra hle
  have hall : ∀ n < 0x21, isPathChar (Char.ofNat n) = false ∧
      Text.Percent.isFormChar (Char.ofNat n) = false := by decide
  exact hnone (hall c.toNat (by omega)) (Char.ofNat_toNat c).symm

/-- What is asked of the server with parameters is read as it was written. -/
lemma Reply.ofTarget_path {path : String} (hpath : isPath path.toList = true)
    (pairs : List (String × String)) :
    ofTarget (path ++ ("?" ++ String.ofList (Text.Percent.formText pairs))) =
      ofPath path pairs := by
  simp only [isPath, Bool.and_eq_true, decide_eq_true_eq, List.all_eq_true] at hpath
  obtain ⟨⟨⟨hhead, hsecond⟩, hchars⟩, hsegment⟩ := hpath
  have hquery : ∀ c ∈ Text.Percent.formText pairs, Text.Percent.isFormChar c = true := fun c hc =>
    Text.Percent.isFormChar_of_mem_formText hc
  have hread : AddressParts.read (path ++ ("?" ++ String.ofList (Text.Percent.formText pairs))) =
      .ok ⟨"", "", path, String.ofList (Text.Percent.formText pairs)⟩ := by
    rw [← String.append_assoc]
    cases hlist : path.toList with
    | nil =>
      rw [hlist] at hhead
      cases hhead
    | cons slash rest =>
      rw [hlist] at hhead hsecond hchars
      obtain rfl := Option.some.inj hhead
      -- no sign of a scheme, of a host or of a fragment stands in the path
      refine AddressParts.read_path hlist ?_ ?_ ?_ ?_
      · intro h
        rw [List.getElem?_cons_succ, ← List.head?_eq_getElem?, h] at hsecond
        cases hsecond
      · rintro rfl
        cases hsecond
      · rw [hlist]
        exact fun c hc => isPlain_of_isPathChar (.inl (hchars c hc))
      · intro c hc
        obtain ⟨hblank, hcolon, -, hhash⟩ := isPlain_of_isPathChar (.inr (hquery c hc))
        exact ⟨hblank, hcolon, hhash⟩
  rw [ofTarget, hread]
  simp only [String.toList_ofList, hsegment, String.ofList_toList, Text.Percent.formPairs_formText]

lemma Reply.ofTarget_rules : ofTarget Operation.rules.path = success rulesData := rfl

end Demo

/-! ### Parameters -/

namespace WebAddress

variable {address : WebAddress} {query : String}

/-- With a query that fits the parts of an address are still not too long. -/
lemma checkParts_query (h : address.checkParts = .ok address) (hquery : query.length ≤ maxLength) :
    checkParts { address with query := some query } = .ok { address with query := some query } := by
  have hfit : ∀ part ∈ address.parts, part.2.length ≤ maxLength := by
    rw [checkParts] at h
    cases hlong : address.parts.find? fun part => maxLength < part.2.length with
    | some part =>
      rw [hlong] at h
      cases h
    | none => simpa using List.find?_eq_none.1 hlong
  have hauthority : authority { address with query := some query } = address.authority := rfl
  simp only [parts, List.forall_mem_cons] at hfit
  obtain ⟨hscheme, hplace, hpath, -, hfragment, -⟩ := hfit
  have hnone : (parts { address with query := some query }).find?
      (fun part => maxLength < part.2.length) = none := by
    rw [List.find?_eq_none]
    simp only [parts, hauthority, List.forall_mem_cons, decide_eq_true_eq, not_lt]
    exact ⟨hscheme, hplace, hpath, hquery, hfragment, nofun⟩
  rw [checkParts, hnone]

/-- Parameters that fit take the place of the query. -/
lemma withParameters_eq {parameters : List (String × String)}
    (h : address.checkParts = .ok address)
    (hroom : Text.Percent.formRoom parameters ≤ maxLength) :
    address.withParameters parameters = .ok { address with
      query := some (String.ofList (Text.Percent.formText parameters))
      port := address.port.filter fun number =>
        !usualPorts.contains (address.scheme, number) } := by
  have hlength : (String.ofList (Text.Percent.formText parameters)).length ≤ maxLength := by
    rw [String.length_ofList]
    exact (Text.Percent.length_formText_le parameters).trans hroom
  rw [withParameters]
  simp only [checkParts_query h hlength, bind, Except.bind]
  rfl

end WebAddress

namespace Demo

/-- The parameters of a query that is not long fit into an address. -/
lemma formRoom_query_le {expr time : String} (hexpr : expr.length ≤ 100)
    (htime : time.length ≤ 1500) :
    Text.Percent.formRoom [("query", expr), ("time", time)] ≤ WebAddress.maxLength := by
  have hnames : "query".length = 5 ∧ "time".length = 4 := by decide
  simp only [Text.Percent.formRoom, List.map_cons, List.map_nil, List.sum_cons, List.sum_nil,
    WebAddress.maxLength]
  omega

lemma formRoom_range_le {expr start finish step : String} (hexpr : expr.length ≤ 100)
    (hstart : start.length ≤ 1500) (hfinish : finish.length ≤ 1500) (hstep : step.length ≤ 1500) :
    Text.Percent.formRoom [("query", expr), ("start", start), ("end", finish), ("step", step)] ≤
      WebAddress.maxLength := by
  have hnames : "query".length = 5 ∧ "start".length = 5 ∧ "end".length = 3 ∧ "step".length = 4 := by
    decide
  simp only [Text.Percent.formRoom, List.map_cons, List.map_nil, List.sum_cons, List.sum_nil,
    WebAddress.maxLength]
  omega

end Demo

/-! ### Calls -/

/-- Parameters are put behind the address that there is without them. -/
lemma Client.target_some [Platform] {url : String} {address : WebAddress}
    (h : target url none = .ok address) (parameters : List (String × Json)) :
    target url (some parameters) =
      address.withParameters (parameters.map fun (name, value) => (name, value.display)) := by
  obtain ⟨read, hread, hrest⟩ := bind_eq_ok_iff.1 h
  obtain ⟨resolved, hresolved, hsame⟩ := bind_eq_ok_iff.1 hrest
  obtain rfl : resolved = address := Except.ok.inj hsame
  rw [target, hread]
  simp only [hresolved, bind, Except.bind]

/-- The addresses of a client lead to the paths that a server has, no part of them is too long, and
its token can be read if there is a file for it. -/
structure Client.Reaches [Platform] (client : Client) (session : Session Unit) : Prop where
  address : ∀ operation, ∃ address, target (client.url operation) none = .ok address ∧
    address.path = operation.path ∧ address.query = none ∧ address.checkParts = .ok address
  token : ∀ name, namedFile client.config.tokenFile = some name →
    ∃ token, session.files.read name = .ok token

namespace Demo

variable [Platform] {client : Client} {session : Session Unit}

lemma exists_authorization (h : client.Reaches session) (address : WebAddress) :
    ∃ authorization, client.authorization session.files address = .ok authorization := by
  cases hname : Client.namedFile client.config.tokenFile with
  | none => exact ⟨_, Client.authorization_of_none hname⟩
  | some name =>
    obtain ⟨token, hread⟩ := h.token name hname
    exact ⟨_, Client.authorization_of_token hname hread⟩

/-- What comes back for a request at an address is the reply of the server to what is asked. -/
lemma fetch_of_target (h : client.Reaches session) {operation : Operation}
    {parameters : Option (List (String × Json))} {address : WebAddress}
    (haddress : Client.target (client.url operation) parameters = .ok address) :
    (client.fetch transport operation parameters session).1 =
      client.unpack operation (Reply.ofTarget address.target).delivery := by
  obtain ⟨authorization, hauthorization⟩ := exists_authorization h address
  have hsent (request : Request) : ((transport request).run session.backend).1 =
      (Reply.ofTarget request.address.target).delivery := by
    rw [transport]
    generalize (Reply.ofTarget request.address.target).delivery = delivery
    rfl
  rw [Client.fetch_apply, Client.delivery, Client.request_of_target haddress, hauthorization]
  simp only [Except.mapError, Except.map, hsent, bind, Except.bind]

/-- The reply to a call without parameters. -/
lemma fetch_rules (h : client.Reaches session) :
    (client.fetch transport .rules none session).1 =
      client.unpack .rules (Reply.success rulesData).delivery := by
  obtain ⟨address, haddress, hpath, hquery, -⟩ := h.address .rules
  have htarget : address.target = Operation.rules.path := by
    rw [WebAddress.target, hpath, hquery]
    rfl
  rw [fetch_of_target h haddress, htarget, Reply.ofTarget_rules]

/-- The reply to a call with parameters. -/
lemma fetch_parameters (h : client.Reaches session) (operation : Operation)
    {parameters : List (String × Json)}
    (hroom : Text.Percent.formRoom (parameters.map fun (name, value) => (name, value.display)) ≤
      WebAddress.maxLength) :
    (client.fetch transport operation (some parameters) session).1 =
      client.unpack operation (Reply.ofPath operation.path
        (parameters.map fun (name, value) => (name, value.display))).delivery := by
  obtain ⟨address, haddress, hpath, -, hparts⟩ := h.address operation
  have htarget := WebAddress.withParameters_eq hparts hroom
  have hne : operation.path ≠ "" := by cases operation <;> simp [Operation.path]
  rw [fetch_of_target h ((Client.target_some haddress _).trans htarget), WebAddress.target]
  simp only [hpath, hne, if_false]
  rw [Reply.ofTarget_path (isPath_path operation)]

/-- Data that are sent are unpacked again. -/
lemma unpack_success {data : Json} (hplain : data.isPlain = true) (hdepth : data.depth ≤ 15)
    (htruthy : data.isTruthy = true) (operation : Operation) :
    client.unpack operation (Reply.success data).delivery = .ok data := by
  have hbody : (Json.object [("status", .text "success"), ("data", data)]).isPlain = true := by
    simp [Json.isPlain, Json.isPlainMembers, hplain]
  have hroom : (Json.object [("status", .text "success"), ("data", data)]).depth ≤
      Platform.nesting := by
    refine le_trans ?_ Platform.sixteen_le_nesting
    rw [Json.depth, Nat.succ_le_succ_iff, Json.depthMembers_le_iff, List.forall_mem_cons,
      List.forall_mem_singleton]
    exact ⟨Nat.zero_le _, hdepth⟩
  have hdocument : Answer.document? Platform.nesting ⟨200, Text.Utf8.encode (Json.compact
      (.object [("status", .text "success"), ("data", data)])).toList⟩ =
        .ok (some (.object [("status", .text "success"), ("data", data)])) := by
    rw [Answer.document?, Json.readBytes_encode_compact hbody hroom]
  rw [Reply.success, Reply.delivery, Client.unpack, Answer.data,
    if_neg (by simp [Answer.isFailure]), hdocument]
  simp [lookupEntry, Answer.dataOf, Answer.dataMember, Option.filter, htruthy, Except.mapError,
    bind, Except.bind]

/-- It depends on the files only. -/
lemma reaches_of_files {other : Session Unit} (h : client.Reaches session)
    (hfiles : other.files = session.files) : client.Reaches other :=
  ⟨h.address, hfiles ▸ h.token⟩

lemma reaches_of_record (h : client.Reaches session) (event : Log.Event) :
    client.Reaches (Log.Journal.record event session) :=
  reaches_of_files h (Client.record_files_backend session event).1

/-- After a call the next one still gets to the server. -/
lemma reaches_fetch (h : client.Reaches session) (operation : Operation)
    (parameters : Option (List (String × Json))) :
    client.Reaches (client.fetch transport operation parameters session).2 :=
  reaches_of_files h (client.files_fetch transport session operation parameters)

/-- Data that the server sends are fetched. -/
lemma gives_fetch {operation : Operation} {parameters : List (String × Json)} {data : Json}
    (hreply : Reply.ofPath operation.path
      (parameters.map fun (name, value) => (name, value.display)) = .success data)
    (hroom : Text.Percent.formRoom (parameters.map fun (name, value) => (name, value.display)) ≤
      WebAddress.maxLength)
    (hplain : data.isPlain = true) (hdepth : data.depth ≤ 15) (htruthy : data.isTruthy = true) :
    (client.fetch transport operation (some parameters)).Gives client.Reaches data := by
  intro session h
  refine ⟨?_, reaches_fetch h operation (some parameters)⟩
  rw [fetch_parameters h operation hroom, hreply, unpack_success hplain hdepth htruthy]

/-- The rules of the server are listed. -/
lemma gives_ruleGroups {groups : List RuleGroup}
    (hgroups : RuleGroup.decodeAll rulesData = .ok groups) :
    (client.ruleGroups transport).Gives client.Reaches groups := by
  have hplain : rulesData.isPlain = true := by decide +kernel
  have hdepth : rulesData.depth ≤ 15 := by decide +kernel
  have hfetch : (client.fetch transport .rules none).Gives client.Reaches rulesData :=
    fun session h =>
      ⟨by rw [fetch_rules h, unpack_success hplain hdepth rfl], reaches_fetch h .rules none⟩
  refine hfetch.bind (.ofExcept ?_)
  rw [hgroups]
  rfl

/-! ### Queries -/

variable {minute count : ℕ} {metric : String}

/-- A query for some minutes up to an instant gives the series at these minutes. -/
theorem gives_query_minutes {expr : String} {time : Instant}
    (hexpr : rangeSelector? expr = some (metric, count)) (hshort : expr.length ≤ 100)
    (htime : time.seconds.floorDiv 60 = .ofInt minute) (hminute : minute * 60 < 253402300800)
    (hcount : count ≤ minute + 1) :
    ((client.gateway transport).query expr time).Gives client.Reaches
      (.matrix (minuteStreams metric (minutesBefore minute count))) := by
  have hreply : Reply.ofPath (Operation.query expr).path
      ((Client.queryParameters expr time).map fun (name, value) => (name, value.display)) =
        .success (listing metric ((minutesBefore minute count).map secondsOf)) :=
    Reply.ofPath_query_minutes hexpr htime (by omega) hcount
  have hroom := formRoom_query_le hshort time.seconds.length_text_le
  refine (gives_fetch hreply hroom (isPlain_listing _ _)
    ((depth_listing_le _ _).trans (by norm_num)) rfl).bind (.ofExcept ?_)
  rw [decode_listing]
  · rfl
  · intro earlier hearlier
    have hle := le_of_mem_minutesBefore hcount hearlier
    omega

/-- A query over a range between whole minutes, minute by minute, gives the series at these. -/
theorem gives_queryRange_minutes (hmetric : metric ≠ "") (hshort : metric.length ≤ 100)
    (hminute : minute * 60 < 253402300800) (hcount : count ≤ minute) :
    ((client.gateway transport).queryRange metric (.ofMinute (minute - count)) (.ofMinute minute)
        (.ofMinutes 1)).Gives client.Reaches
      (.matrix (minuteStreams metric (minutesBefore minute (count + 1)))) := by
  have hseconds {minute : ℕ} (hminute : minute * 60 < 2 ^ 53) :
      (Instant.ofMinute minute).seconds = secondsOf minute := Instant.seconds_eq hminute
  have hstep : (Duration.ofMinutes 1).seconds = .ofInt (60 : ℕ) := by decide +kernel
  have hreply : Reply.ofPath (Operation.queryRange metric).path
      ((Client.rangeParameters metric (.ofMinute (minute - count)) (.ofMinute minute)
        (.ofMinutes 1)).map fun (name, value) => (name, value.display)) =
        .success (listing metric ((minutesBefore minute (count + 1)).map secondsOf)) := by
    rw [Client.rangeParameters, hseconds (by omega), hseconds (by omega), hstep]
    exact Reply.ofPath_range_minutes hmetric (by omega) hcount
  -- the request is short enough to be sent, for all its parameters are
  have hroom := formRoom_range_le hshort (Instant.ofMinute (minute - count)).seconds.length_text_le
    (Instant.ofMinute minute).seconds.length_text_le (Duration.ofMinutes 1).seconds.length_text_le
  refine (gives_fetch hreply hroom (isPlain_listing _ _)
    ((depth_listing_le _ _).trans (by norm_num)) rfl).bind (.ofExcept ?_)
  rw [decode_listing]
  · rfl
  · intro earlier hearlier
    have hle := le_of_mem_minutesBefore (by omega) hearlier
    omega

end Demo

end RuleFixtures
