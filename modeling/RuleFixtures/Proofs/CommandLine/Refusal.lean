import RuleFixtures.Proofs.Address.Endpoint
import RuleFixtures.Proofs.CommandLine.Output

/-!
Addresses that are refused.

A client is not made of a refused address, and a run ends where it reads its configuration: nothing
is asked of the backend, no file is written and nothing printed.

* `Run.Asks` holds of command lines that ask for a run with a configuration, and
  `Run.configure_of_error` is what such a run comes to if the configuration is refused.
* `Run.ends_of_refused`: the run has the exit code 2, and nothing shows of it but on the error
  stream.
* `Run.accepts_or_refuses` says of every address whether it is accepted, and what follows if not.
-/

namespace RuleFixtures

open RunConfig AddressParts

variable {β : Type}

/-! ### Refused addresses -/

/-- An address is refused by a failure of the configuration, or as its authority cannot be taken. -/
lemma RunConfig.Refused.kind {config : RunConfig} {fault : Fault} (h : Refused config fault) :
    fault.kind = "ConfigurationError" ∨ ∃ found, fault = .address found := by
  cases h with
  | missing => exact .inl rfl
  | authority => exact .inr ⟨_, rfl⟩
  | scheme => exact .inl rfl
  | host => exact .inl rfl

lemma RunConfig.Refused.exitCode {config : RunConfig} {fault : Fault} (h : Refused config fault) :
    fault.exitCode = 2 := by
  cases h <;> rfl

/-- No client is made of a configuration that is refused. -/
lemma Client.ofConfig_of_error [Platform] {config : RunConfig} {fault : Fault}
    (h : config.validate = .error fault) (userAgent : String) (files : Files) :
    ofConfig config userAgent files = .error fault := by
  rw [ofConfig, h]
  rfl

namespace CommandLine.Run

variable [Platform] (run : Run β) {session : Session β} {invocation : Invocation}
  {settings : Settings} {fault : Fault}

/-! ### Runs -/

/-- The command line asks for a run with the configuration, where it is completed by the
settings. -/
def Asks (session : Session β) (arguments : List String) (config : RunConfig) : Prop :=
  ∃ invocation settings, Invocation.read arguments = .ok invocation ∧
    Settings.load run.environment session.files = .ok settings ∧
    invocation.config settings = config

/-- The level of the log is looked up in front of the address, and may be unknown. -/
lemma configure_of_error
    (hsettings : Settings.load run.environment session.files = .ok settings)
    (hrefused : (invocation.config settings).validate = .error fault) :
    ∃ shown, (run.configure invocation session).1 = .error shown ∧
      (shown = fault ∨ ∃ name, shown = .unknownLevel name) := by
  rw [configure, Act.bind_apply]
  dsimp only [Session.currentFiles]
  rw [hsettings, Act.bind_apply]
  dsimp only [Act.ofExcept]
  cases hlevel : thresholdOf invocation.verbose settings with
  | ok threshold =>
    rw [hrefused]
    exact ⟨fault, rfl, .inl rfl⟩
  | error other =>
    refine ⟨other, rfl, .inr ?_⟩
    rw [thresholdOf] at hlevel
    split at hlevel
    · cases hlevel
    · dsimp only at hlevel
      split at hlevel
      · cases hlevel
      · exact ⟨_, (Except.error.inj hlevel).symm⟩

/-- A run with a refused address has the exit code 2. It leaves a report on the error stream and
changes nothing else; with no request sent, the backend is in the state it was in. -/
lemma ends_of_refused [PromQL.Language] {arguments : List String} {config : RunConfig}
    (hasks : run.Asks session arguments config) (hrefused : Refused config fault) :
    ((run.start arguments).run session).1 = 2 ∧
      session.SameOutside ((run.start arguments).run session).2 ∧
      ∃ shown : Fault, (shown = fault ∨ ∃ name, shown = .unknownLevel name) ∧
        ((run.start arguments).run session).2.notes.getLast? = some (.told shown.report) := by
  obtain ⟨invocation, settings, hread, hsettings, rfl⟩ := hasks
  obtain ⟨shown, hshown, hkind⟩ :=
    run.configure_of_error hsettings ((validate_eq_error_iff fault).2 hrefused)
  have hstart : run.start arguments = guarded true (run.perform invocation) := by
    rw [start, hread]
  have hrun : run.perform invocation session =
      (.error shown, (run.configure invocation session).2) := by
    rw [perform_eq, Act.bind_apply]
    rw [(Prod.ext hshown rfl : run.configure invocation session = (.error shown, _))]
  rw [hstart, guarded_of_error hrun]
  refine ⟨?_, ?_, shown, hkind, ?_⟩
  · obtain rfl | ⟨name, rfl⟩ := hkind
    · exact hrefused.exitCode
    · rfl
  · exact (run.quiet_configure invocation session).trans (Session.sameOutside_afterFault _ _)
  · exact List.getLast?_concat

/-- An address is accepted, and the configuration is left as it is, if it is absolute with a scheme
of the web and an authority that can be taken. Its host may still be empty, as there may be nothing
but a user and a port. Of any other address no client is made, and no run sends a request. -/
theorem accepts_or_refuses [PromQL.Language] (config : RunConfig) :
    (∀ valid, config.validate = .ok valid ↔ valid = config ∧
      ∃ authority, IsEndpoint config.url authority ∧ checkAuthority authority = .ok ()) ∧
    (∀ authority, IsEndpoint config.url authority → '[' ∉ placeOf authority →
      (hostOf authority = [] ↔ ∀ c ∈ (placeOf authority).head?, c = ':')) ∧
    ∀ fault, (config.validate = .error fault ↔ Refused config fault) ∧
      (Refused config fault →
        (fault.kind = "ConfigurationError" ∨ ∃ found, fault = .address found) ∧
        (∀ userAgent files, Client.ofConfig config userAgent files = .error fault) ∧
        ∀ {β : Type} (run : Run β) (session : Session β) (arguments : List String),
          run.Asks session arguments config →
            ((run.start arguments).run session).1 = 2 ∧
              session.SameOutside ((run.start arguments).run session).2 ∧
              ∃ shown : Fault, (shown = fault ∨ ∃ name, shown = .unknownLevel name) ∧
                ((run.start arguments).run session).2.notes.getLast? =
                  some (.told shown.report)) := by
  refine ⟨validate_eq_ok_iff, fun authority _ => hostOf_eq_nil_iff, fun fault => ?_⟩
  refine ⟨validate_eq_error_iff fault, fun hrefused => ⟨hrefused.kind, ?_, ?_⟩⟩
  · exact Client.ofConfig_of_error ((validate_eq_error_iff fault).2 hrefused)
  · exact fun run session arguments hasks => run.ends_of_refused hasks hrefused

end CommandLine.Run

/-! ### Four addresses -/

/-- What is asked for by a report on all rules at an address. -/
def reportAt (url : String) : CommandLine.Invocation := ⟨.inspect, [⟨.url, some url⟩]⟩

/-- An address with another scheme is refused, and one with a user, a host and a port is not. -/
theorem accepts_or_refuses_otherScheme :
    let refused : Fault := .failure (.refusedScheme "ftp" "ftp://p")
    let result := (scriptedRun.start ["inspect", "-url", "ftp://p"]).run (awaiting [noRules])
    result.1 = 2 ∧ (awaiting [noRules]).SameOutside result.2 ∧
      (∀ userAgent files, Client.ofConfig { url := "ftp://p" } userAgent files = .error refused) ∧
      RunConfig.validate { url := "http://u@p:9090/x" } = .ok { url := "http://u@p:9090/x" } ∧
      hostOf "u@p:9090".toList ≠ [] := by
  have hrefused : Refused { url := "ftp://p" } (.failure (.refusedScheme "ftp" "ftp://p")) :=
    .scheme (by decide) (by decide +kernel) (by decide +kernel)
  have hasks : scriptedRun.Asks (awaiting [noRules]) ["inspect", "-url", "ftp://p"]
      { url := "ftp://p" } :=
    ⟨reportAt "ftp://p", {}, by decide +kernel, by decide +kernel, by decide +kernel⟩
  have hendpoint : IsEndpoint "http://u@p:9090/x" "u@p:9090".toList :=
    isEndpoint_iff.2 ⟨by decide +kernel, by decide +kernel, by decide⟩
  obtain ⟨-, hclient, hrun⟩ :=
    ((CommandLine.Run.accepts_or_refuses { url := "ftp://p" }).2.2 _).2 hrefused
  obtain ⟨haccepted, hhost, -⟩ := CommandLine.Run.accepts_or_refuses { url := "http://u@p:9090/x" }
  obtain ⟨hcode, hsame, -⟩ := hrun scriptedRun (awaiting [noRules]) _ hasks
  refine ⟨hcode, hsame, hclient, (haccepted _).2 ⟨rfl, _, hendpoint, by decide +kernel⟩, ?_⟩
  rw [ne_eq, hhost _ hendpoint (by decide +kernel)]
  intro hport
  exact absurd (hport 'p' (by decide +kernel)) (by decide)

/-- An address without a host is accepted, and one is refused by a fault that is none of the
configuration. -/
theorem accepts_withoutHost :
    RunConfig.validate { url := "http://:9090" } = .ok { url := "http://:9090" } ∧
      IsEndpoint "http://:9090" ":9090".toList ∧ hostOf ":9090".toList = [] ∧
      RunConfig.validate { url := "http://[" } = .error (.address .brackets) ∧
      Fault.kind (.address .brackets) = "ValueError" :=
  ⟨by decide +kernel, isEndpoint_iff.2 ⟨by decide +kernel, by decide +kernel, by decide⟩,
    by decide +kernel, by decide +kernel, rfl⟩

end RuleFixtures
