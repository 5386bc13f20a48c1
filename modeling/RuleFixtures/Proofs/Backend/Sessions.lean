import RuleFixtures.Backend.Client
import RuleFixtures.Proofs.Gateway.Agreement
import RuleFixtures.Rules.Catalog

/-!
The calls of a client in two sessions.

A call reads the files and asks the backend. What else stands in a session does not reach it, so
runs whose sessions differ there make the same calls and get the same answers.

* `Session.Indistinct` holds of relations between sessions that calls neither see nor end.
* `Client.agree_gateway`: the gateway of a client answers alike in such sessions.
* `Client.ofConfig_picking`: the rules that are picked do not matter to a client.
-/

namespace RuleFixtures

variable {β : Type} {R : Session β → Session β → Prop} {E : Fault → Fault → Prop}

/-- Related sessions have the same files and the same backend, and stay related when they note an
event or go on with another backend. -/
structure Session.Indistinct (R : Session β → Session β → Prop) : Prop where
  files : ∀ s t, R s t → s.files = t.files
  backend : ∀ s t, R s t → s.backend = t.backend
  record : ∀ event s t, R s t → R (Log.Journal.record event s) (Log.Journal.record event t)
  goOn : ∀ backend s t, R s t → R { s with backend } { t with backend }

/-! ### Calls -/

section Calls

variable (h : Session.Indistinct R) (hE : ∀ fault, E fault fault)

include h

lemma Session.agree_currentFiles :
    Act.Agree R E Eq (currentFiles : Act (Session β) Files) currentFiles :=
  fun s t hstates => ⟨.values (h.files s t hstates), hstates⟩

namespace Client

lemma agree_send (transport : Transport β) (request : Request) :
    Act.Agree R E Eq (send transport request) (send transport request) := by
  intro s t hstates
  rw [send, send, h.backend s t hstates]
  exact ⟨.values rfl, h.goOn _ s t hstates⟩

include hE

variable [Platform] (client : Client) (transport : Transport β)

/-- A call comes to the same in both sessions. -/
lemma agree_fetch (operation : Operation) (parameters : Option (List (String × Json))) :
    Act.Agree R E Eq (client.fetch transport operation parameters)
      (client.fetch transport operation parameters) := by
  refine (Act.Agree.log (h.record _)).bind fun _ _ _ => ?_
  refine (Act.Agree.ofExcept (.refl hE _)).bind fun address _ hsame => ?_
  subst hsame
  refine (Session.agree_currentFiles h).bind fun files _ hsame => ?_
  subst hsame
  refine (Act.Agree.ofExcept (.refl hE _)).bind fun authorization _ hsame => ?_
  subst hsame
  refine (agree_send h transport _).bind fun delivery _ hsame => ?_
  subst hsame
  cases delivery with
  | answered answer => exact .ofExcept (.refl hE _)
  | failed reason => exact (Act.Agree.log (h.record _)).bind fun _ _ _ => .fail (hE _)
  | broken reason => exact .fail (hE _)
  | raised fault => exact .fail (hE _)

lemma agree_ruleGroups :
    Act.Agree R E Eq (client.ruleGroups transport) (client.ruleGroups transport) := by
  refine (client.agree_fetch h hE transport _ _).bind fun data _ hsame => ?_
  subst hsame
  exact .ofExcept (.refl hE _)

/-- So its gateway answers alike. -/
theorem agree_gateway : (client.gateway transport).Agree R E Eq (client.gateway transport) where
  query expr time := by
    refine (client.agree_fetch h hE transport _ _).bind fun data _ hsame => ?_
    subst hsame
    exact .ofExcept (.refl hE _)
  queryRange expr start finish step := by
    refine (client.agree_fetch h hE transport _ _).bind fun data _ hsame => ?_
    subst hsame
    exact .ofExcept (.refl hE _)
  record := h.record

/-- The same rules are loaded. -/
lemma agree_load :
    Act.Agree R E Eq (RuleCatalog.load (client.gateway transport))
      (RuleCatalog.load (client.gateway transport)) := by
  refine (client.agree_ruleGroups h hE transport).bind fun groups _ hsame => ?_
  subst hsame
  refine (Act.Agree.ofExcept (.refl hE _)).bind fun catalog _ hsame => ?_
  subst hsame
  exact (Act.Agree.log (h.record _)).map fun _ _ _ => rfl

end Client

end Calls

/-! ### The client of a configuration -/

/-- The configuration with other rules picked. -/
def RunConfig.picking (config : RunConfig) (recording alerting : RuleSelection) : RunConfig :=
  { config with recordingRules := recording, alertingRules := alerting }

/-- Only the address is checked. -/
lemma RunConfig.validate_of_url {config other : RunConfig} (h : other.url = config.url) :
    other.validate = config.validate.map fun _ => other := by
  rw [validate, validate, h]
  by_cases hurl : config.url = ""
  · rw [if_pos hurl, if_pos hurl]
    rfl
  rw [if_neg hurl, if_neg hurl]
  cases (AddressParts.read config.url).mapError Fault.address with
  | error fault => rfl
  | ok parts =>
    dsimp only [bind, Except.bind]
    by_cases hscheme : (!allowedSchemes.contains parts.scheme) = true
    · rw [if_pos hscheme, if_pos hscheme]
      rfl
    rw [if_neg hscheme, if_neg hscheme]
    by_cases hhost : parts.authority = ""
    · rw [if_pos hhost, if_pos hhost]
      rfl
    · rw [if_neg hhost, if_neg hhost]
      rfl

/-- A configuration that is accepted is given back. -/
lemma RunConfig.eq_of_validate {config valid : RunConfig} (h : config.validate = .ok valid) :
    valid = config := by
  have hsame := validate_of_url (rfl : config.url = config.url)
  rw [h] at hsame
  exact Except.ok.inj hsame

/-- The rules that are picked are not checked. -/
lemma RunConfig.agree_validate (config : RunConfig) (recording alerting : RuleSelection) :
    ResultsAgree Eq (fun valid next => next = valid.picking recording alerting) config.validate
      (config.picking recording alerting).validate := by
  have hurl : (config.picking recording alerting).url = config.url := rfl
  rw [validate_of_url hurl]
  cases hvalid : config.validate with
  | error fault => exact .faults rfl
  | ok valid => exact .values (by rw [eq_of_validate hvalid])

/-- Other rules that are picked make no other client, but for its configuration. -/
lemma Client.ofConfig_picking [Platform] (config : RunConfig) (recording alerting : RuleSelection)
    (userAgent : String) (files : Files) :
    ofConfig (config.picking recording alerting) userAgent files =
      (ofConfig config userAgent files).map fun client =>
        { client with config := client.config.picking recording alerting } := by
  have hurl : (config.picking recording alerting).url = config.url := rfl
  rw [ofConfig, ofConfig, RunConfig.validate_of_url hurl]
  cases hvalid : config.validate with
  | error fault => rfl
  | ok valid =>
    obtain rfl := RunConfig.eq_of_validate hvalid
    have hfile : checkAuthorities (valid.picking recording alerting) files =
        checkAuthorities valid files := rfl
    dsimp only [bind, Except.bind, Except.map]
    rw [hfile]
    cases checkAuthorities valid files with
    | error fault => rfl
    | ok _ => cases (checkHeader userAgent).mapError Fault.header <;> rfl

end RuleFixtures
