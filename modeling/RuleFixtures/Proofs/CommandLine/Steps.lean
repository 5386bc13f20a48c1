import RuleFixtures.CommandLine.Run
import RuleFixtures.Proofs.Backend.Sessions

/-!
The steps of a run.

* `Act.Quiet` holds of steps that show on the error stream only.
* `Run.configure` is what a run does before its command, `Run.listing` loads the rules, and
  `Run.deliver` writes the fixtures that were made; `Run.perform_eq`, `Run.inspect_eq` and
  `Run.generate_eq` put runs together from them.
* `Run.FailsOr` holds of runs that fail with nothing written, or come to one of some ends;
  `Run.failsOr_bind` goes on from one step to the next.
* `Run.agree_listing`: the rules that are loaded do not depend on those that are picked.
* `guarded_of_ok` and `guarded_of_error` give the exit code of a run.
-/

namespace RuleFixtures

variable {β : Type}

/-! ### Quiet steps -/

/-- The files, the backend and the output are the same in both sessions. -/
structure Session.SameOutside (s t : Session β) : Prop where
  files : t.files = s.files
  backend : t.backend = s.backend
  printed : t.printed = s.printed

lemma Session.SameOutside.trans {s t r : Session β} (h : s.SameOutside t) (h' : t.SameOutside r) :
    s.SameOutside r :=
  ⟨h'.files.trans h.files, h'.backend.trans h.backend, h'.printed.trans h.printed⟩

/-- A step is quiet if nothing shows of it but on the error stream. -/
def Act.Quiet {α : Type} (m : Act (Session β) α) : Prop :=
  ∀ s : Session β, s.SameOutside (m s).2

namespace Act.Quiet

variable {α γ : Type}

lemma ofExcept (result : Except Fault α) : Quiet (Act.ofExcept result : Act (Session β) α) :=
  fun _ => ⟨rfl, rfl, rfl⟩

lemma bind {m : Act (Session β) α} {f : α → Act (Session β) γ} (hm : Quiet m)
    (hf : ∀ a, Quiet (f a)) : Quiet (m >>= f) := by
  intro s
  obtain ⟨fault, -, hrun⟩ | ⟨a, -, hrun⟩ := bind_cases m f s
  · rw [hrun]
    exact hm s
  · rw [hrun]
    exact (hm s).trans (hf a _)

lemma log (event : Log.Event) : Quiet (Act.log event : Act (Session β) Unit) := by
  intro s
  simp only [Act.log, Log.Journal.record]
  split <;> exact ⟨rfl, rfl, rfl⟩

lemma tellMessage (message : Except MarkupFault String) :
    Quiet (Session.tellMessage message : Act (Session β) Unit) :=
  (ofExcept _).bind fun _ _ => ⟨rfl, rfl, rfl⟩

end Act.Quiet

namespace CommandLine.Run

/-! ### Steps in front of the output -/

section Unwritten

variable {session : Session β}

/-- A run that has written nothing since a session, beside another one that asks the same. -/
structure Unwritten (session s t : Session β) : Prop where
  kept : s.files = session.files
  files : s.files = t.files
  backend : s.backend = t.backend
  printed : s.printed = session.printed

lemma Unwritten.of_sameOutside {s t next : Session β} (h : Unwritten session s t)
    (hnext : s.SameOutside next) : Unwritten session next t where
  kept := hnext.files.trans h.kept
  files := hnext.files.trans h.files
  backend := hnext.backend.trans h.backend
  printed := hnext.printed.trans h.printed

lemma indistinct_unwritten (session : Session β) : Session.Indistinct (Unwritten session) where
  files _ _ h := h.files
  backend _ _ h := h.backend
  record event s t h := by
    have hs := Act.Quiet.log event s
    have ht := Act.Quiet.log event t
    exact ⟨hs.files.trans h.kept, (hs.files.trans h.files).trans ht.files.symm,
      (hs.backend.trans h.backend).trans ht.backend.symm, hs.printed.trans h.printed⟩
  goOn _ _ _ h := ⟨h.kept, h.files, rfl, h.printed⟩

/-- A run fails with nothing written since a session, or it comes to one of some ends. -/
def FailsOr {α : Type} (session : Session β) (Ends : Except Fault α × Session β → Prop)
    (result : Except Fault α × Session β) : Prop :=
  (∃ fault next, result = (.error fault, next) ∧ next.files = session.files ∧
    next.printed = session.printed) ∨ Ends result

/-- A step that has written nothing fails so, or the next step decides. -/
lemma failsOr_bind {α γ : Type} {Ends : Except Fault γ × Session β → Prop}
    {m : Act (Session β) α} {f : α → Act (Session β) γ} {s t : Session β}
    (hm : Unwritten session (m s).2 t)
    (hf : ∀ a, (m s).1 = .ok a → FailsOr session Ends (f a (m s).2)) :
    FailsOr session Ends ((m >>= f) s) := by
  obtain ⟨fault, -, hrun⟩ | ⟨a, ha, hrun⟩ := Act.bind_cases m f s
  · exact .inl ⟨fault, _, hrun, hm.kept, hm.printed⟩
  · rw [hrun]
    exact hf a ha

end Unwritten

/-! ### The parts of a run -/

variable [Platform] (run : Run β) (config : RunConfig)

/-- The configuration of an invocation where the files are given. -/
def configuration (invocation : Invocation) (files : Files) : Except Fault RunConfig := do
  let settings ← Settings.load run.environment files
  (invocation.config settings).validate

/-- Reads the configuration and sets the log up. -/
def configure (invocation : Invocation) : Act (Session β) RunConfig := do
  let files ← Session.currentFiles
  let settings ← Act.ofExcept (Settings.load run.environment files)
  Session.setThreshold (← Act.ofExcept (thresholdOf invocation.verbose settings))
  let config ← Act.ofExcept (invocation.config settings).validate
  Act.log (.runConfigured invocation.command.name config.url)
  return config

/-- Loads the rules. -/
def listing : Act (Session β) (Gateway (Session β) × RuleCatalog) := do
  let client ← openClient config
  return (client.gateway run.transport, ← RuleCatalog.load (client.gateway run.transport))

/-- What the warning of alerting rules says when fixtures are made. -/
def ignoringText (names : List String) : String :=
  "Alerting rules are not used by generate, ignoring: " ++ String.intercalate ", " names

/-- Warns of alerting rules that are picked, when fixtures are made. -/
def warnOfIgnored (width : ℕ) (selection : RuleSelection) : Act (Session β) Unit :=
  if selection.selectsAll then pure ()
  else Session.tellMessage (Console.Message.warning width (ignoringText selection.names))

/-- The document of fixtures. -/
def document (fixtures : List Fixture) : String :=
  TestFile.render { tests := fixtures, ruleFiles := config.ruleFiles }

/-- The message on fixtures that were written to a file. -/
def announcement (width : ℕ) (fixtures : List Fixture) (path : String) :
    Except MarkupFault String :=
  Console.Message.success width
    ("Wrote " ++ toString fixtures.length ++ " test groups to " ++ path)

/-- Writes the document of fixtures to a file, or prints it. -/
def deliver (width : ℕ) (output : Option String) (fixtures : List Fixture) :
    Act (Session β) Nat := do
  match output.filter (· ≠ "") with
  | some path => do
    save path (document config fixtures)
    Session.tellMessage (announcement width fixtures path)
  | none => Session.print (document config fixtures)
  return 0

/-- Shows a report as a text or as a document. -/
def showReport (width : ℕ) (asDocument : Bool) (report : InspectionReport) :
    Act (Session β) Nat := do
  if asDocument then Session.print (report.toJson.indented ++ "\n") else printReport width report
  return 0

lemma perform_eq [PromQL.Language] (invocation : Invocation) :
    run.perform invocation = (do
      let config ← run.configure invocation
      match invocation.command with
      | .inspect => run.inspect config (invocation.output? = some "json")
      | .generate => run.generate config invocation.output?) := by
  cases hcommand : invocation.command <;> simp [perform, configure, hcommand]

lemma inspect_eq [PromQL.Language] (asDocument : Bool) :
    run.inspect config asDocument = (do
      let (_, catalog) ← run.listing config
      warnOfSelection run.width "Recording" config.recordingRules catalog.recording
      warnOfSelection run.width "Alerting" config.alertingRules catalog.alerting
      let report ← InspectionReport.ofCatalog catalog config.recordingRules.selects
        config.alertingRules.selects
      showReport run.width asDocument report) := by
  simp [inspect, listing, showReport]

lemma generate_eq [PromQL.Language] (output : Option String) :
    run.generate config output = (do
      warnOfIgnored run.width config.alertingRules
      let (gateway, catalog) ← run.listing config
      warnOfSelection run.width "Recording" config.recordingRules catalog.recording
      let generator : Generator := { catalog }
      let fixtures ← generator.all gateway config.recordingRules.selects run.now
      deliver config run.width output fixtures) := by
  rw [generate, warnOfIgnored]
  cases config.alertingRules.selectsAll with
  | true =>
    simp only [listing, bind_assoc, pure_bind, Bool.not_true, Bool.false_eq_true, if_false, if_true]
    rfl
  | false =>
    simp only [listing, bind_assoc, pure_bind, Bool.not_false, if_true, Bool.false_eq_true,
      if_false]
    rfl

lemma quiet_configure (invocation : Invocation) : (run.configure invocation).Quiet := by
  refine Act.Quiet.bind (fun _ => ⟨rfl, rfl, rfl⟩) fun files => ?_
  refine (Act.Quiet.ofExcept _).bind fun settings => ?_
  refine (Act.Quiet.ofExcept _).bind fun threshold => ?_
  refine Act.Quiet.bind (fun _ => ⟨rfl, rfl, rfl⟩) fun _ => ?_
  refine (Act.Quiet.ofExcept _).bind fun config => ?_
  exact (Act.Quiet.log _).bind fun _ _ => ⟨rfl, rfl, rfl⟩

/-- The configuration of a run depends on the files only. -/
lemma configuration_of_configure {invocation : Invocation} {s : Session β} {config : RunConfig}
    (h : (run.configure invocation s).1 = .ok config) :
    run.configuration invocation s.files = .ok config := by
  obtain ⟨files, hfiles, h⟩ := Act.fst_bind_eq_ok_iff.1 h
  cases hfiles
  obtain ⟨settings, hsettings, h⟩ := Act.fst_bind_eq_ok_iff.1 h
  obtain ⟨threshold, _, h⟩ := Act.fst_bind_eq_ok_iff.1 h
  obtain ⟨_, _, h⟩ := Act.fst_bind_eq_ok_iff.1 h
  obtain ⟨valid, hvalid, h⟩ := Act.fst_bind_eq_ok_iff.1 h
  obtain ⟨_, _, h⟩ := Act.fst_bind_eq_ok_iff.1 h
  obtain rfl : valid = config := Except.ok.inj h
  exact bind_eq_ok_iff.2 ⟨settings, hsettings, hvalid⟩

lemma quiet_warnOfMissing (width : ℕ) (kind : String) (names : List String) :
    (warnOfMissing width kind names : Act (Session β) Unit).Quiet := by
  induction names with
  | nil => exact fun _ => ⟨rfl, rfl, rfl⟩
  | cons name rest ih => exact (Act.Quiet.tellMessage _).bind fun _ => ih

lemma quiet_warnOfIgnored (width : ℕ) (selection : RuleSelection) :
    (warnOfIgnored width selection : Act (Session β) Unit).Quiet := by
  rw [warnOfIgnored]
  split
  · exact fun _ => ⟨rfl, rfl, rfl⟩
  · exact Act.Quiet.tellMessage _

/-! ### Loading the rules -/

section Listing

variable {R : Session β → Session β → Prop} {E : Fault → Fault → Prop}
  (h : Session.Indistinct R) (hE : ∀ fault, E fault fault)

include h hE

/-- The rules that are picked do not matter to the client: its gateway is the same. -/
lemma agree_openClient (recording alerting : RuleSelection) :
    Act.Agree R E (fun client other => ∀ transport : Transport β,
        client.gateway transport = other.gateway transport)
      (openClient config) (openClient (config.picking recording alerting)) := by
  refine (Session.agree_currentFiles h).bind fun files _ hsame => ?_
  subst hsame
  rw [Client.ofConfig_picking]
  refine .ofExcept ?_
  cases Client.ofConfig config Client.defaultUserAgent files with
  | error fault => exact .faults (hE fault)
  | ok client => exact .values fun transport => rfl

/-- The rules that are loaded do not depend on those that are picked. -/
lemma agree_listing (recording alerting : RuleSelection) :
    Act.Agree R E Eq (run.listing config) (run.listing (config.picking recording alerting)) := by
  refine (agree_openClient config h hE recording alerting).bind fun client other hgateway => ?_
  rw [← hgateway]
  exact (client.agree_load h hE run.transport).map fun _ _ hsame => by rw [hsame]

end Listing

/-- In a run that has written nothing the rules are loaded as at its start. -/
lemma listing_of_unwritten {session s : Session β} (h : Unwritten session s session) :
    (run.listing config s).1 = (run.listing config session).1 ∧
      Unwritten session (run.listing config s).2 (run.listing config session).2 := by
  obtain ⟨hlisted, hlisting⟩ := run.agree_listing config (indistinct_unwritten session)
    (fun _ => rfl) config.recordingRules config.alertingRules s session h
  exact ⟨hlisted.eq, hlisting⟩

/-- The same rules are loaded behind a quiet step, whichever rules are picked. -/
lemma fst_listing_picking {s t : Session β} (h : s.SameOutside t)
    (recording alerting : RuleSelection) :
    (run.listing (config.picking recording alerting) t).1 = (run.listing config s).1 := by
  have hstart : Unwritten s s t := ⟨rfl, h.files.symm, h.backend.symm, rfl⟩
  exact (run.agree_listing config (indistinct_unwritten s) (fun _ => rfl) recording alerting s t
    hstart).1.eq.symm

/-- The gateway of a listing is that of a client. -/
lemma gateway_of_listing {s : Session β} {gateway : Gateway (Session β)} {catalog : RuleCatalog}
    (h : (run.listing config s).1 = .ok (gateway, catalog)) :
    ∃ client : Client, gateway = client.gateway run.transport := by
  obtain ⟨client, _, h⟩ := Act.fst_bind_eq_ok_iff.1 h
  obtain ⟨loaded, _, h⟩ := Act.fst_bind_eq_ok_iff.1 h
  exact ⟨client, (congrArg Prod.fst (Except.ok.inj h)).symm⟩

end CommandLine.Run

/-! ### The end of a run -/

lemma Fault.exitCode_ne_zero (fault : Fault) : fault.exitCode ≠ 0 := by
  cases fault <;> simp [exitCode]

/-- The session behind a fault, which is logged and told. -/
def Session.afterFault (fault : Fault) (session : Session β) : Session β :=
  let logged := Log.Journal.record fault.event session
  { logged with notes := logged.notes ++ [.told fault.report] }

lemma Session.sameOutside_afterFault (fault : Fault) (session : Session β) :
    session.SameOutside (session.afterFault fault) :=
  SameOutside.trans (Act.Quiet.log fault.event session) ⟨rfl, rfl, rfl⟩

section Guarded

variable {act : Act (Session β) ℕ} {s next : Session β}

lemma guarded_of_ok {code : ℕ} (h : act s = (.ok code, next)) :
    (guarded true act).run s = (code, next) := by
  have hrun : act.run.run s = (.ok code, next) := h
  simp only [guarded, StateT.run_bind, hrun]
  rfl

lemma guarded_of_error {fault : Fault} (h : act s = (.error fault, next)) :
    (guarded true act).run s = (fault.exitCode, next.afterFault fault) := by
  have hrun : act.run.run s = (.error fault, next) := h
  simp only [guarded, StateT.run_bind, hrun]
  rfl

/-- Steps with one outcome end alike. -/
lemma guarded_congr {other : Act (Session β) ℕ} {t : Session β} (h : act s = other t) :
    (guarded true act).run s = (guarded true other).run t := by
  rcases hrun : act s with ⟨fault | code, next⟩
  · rw [guarded_of_error hrun, guarded_of_error (h.symm.trans hrun)]
  · rw [guarded_of_ok hrun, guarded_of_ok (h.symm.trans hrun)]

end Guarded

end RuleFixtures
