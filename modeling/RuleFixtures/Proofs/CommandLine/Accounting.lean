import RuleFixtures.Proofs.CommandLine.FurtherNames
import RuleFixtures.Proofs.CommandLine.Lasting
import RuleFixtures.Proofs.Console.StatusMessage
import RuleFixtures.Proofs.Rules.PrintedNames
import RuleFixtures.Proofs.Rules.Selected

/-!
What a run that ends well says on the names that flags give.

Besides log events, such a run tells its warnings, in their order, and at the end that a file was
written. So every name is either that of a rule in the output, or warned about.

* `Session.Adds` compares two sessions by what is told and printed between them; to add nothing
  lasts through the long steps of a run, by `Session.lasting_adds`.
* `Run.adds_warnOfMissing`, `Run.adds_showReport` and `Run.delivered_of_deliver`: what the other
  steps add.
* `Run.Accounted` describes the end of a run by the names that are given: those of the rules that
  are reported, as they stand in what is printed, and those that are warned about.
* `Run.start_accounts`: every run with the exit code 0 ends so.
-/

namespace RuleFixtures

variable {β : Type}

/-! ### What is told and printed -/

/-- The text that a note tells; log events tell none. -/
def Note.told? : Note → Option String
  | .logged _ => none
  | .told text => some text

/-- The texts on the error stream besides log events. -/
def Session.messages (session : Session β) : List String := session.notes.filterMap Note.told?

/-- Between two sessions some texts are told and one is printed, and the files stay. -/
structure Session.Adds (s t : Session β) (told : List String) (printed : String) : Prop where
  files : t.files = s.files
  messages : t.messages = s.messages ++ told
  printed : t.printed = s.printed ++ printed

namespace Session.Adds

lemma refl (s : Session β) : s.Adds s [] "" where
  files := rfl
  messages := (List.append_nil _).symm
  printed := String.append_empty.symm

lemma trans {s t r : Session β} {told more : List String} {printed further : String}
    (h : s.Adds t told printed) (h' : t.Adds r more further) :
    s.Adds r (told ++ more) (printed ++ further) where
  files := h'.files.trans h.files
  messages := by rw [h'.messages, h.messages, List.append_assoc]
  printed := by rw [h'.printed, h.printed, String.append_assoc]

/-- What is said behind a step that says nothing. -/
lemma after {s t r : Session β} {told : List String} {printed : String} (h : s.Adds t [] "")
    (h' : t.Adds r told printed) : s.Adds r told printed := by
  simpa using h.trans h'

/-- A step that says nothing behind what is said. -/
lemma before {s t r : Session β} {told : List String} {printed : String}
    (h : s.Adds t told printed) (h' : t.Adds r [] "") : s.Adds r told printed := by
  simpa using h.trans h'

end Session.Adds

/-- Recording an event says nothing. -/
lemma Session.adds_record (event : Log.Event) (s : Session β) :
    s.Adds (Log.Journal.record event s) [] "" := by
  simp only [Log.Journal.record]
  split
  · exact ⟨rfl, by simp [messages, Note.told?], String.append_empty.symm⟩
  · exact .refl s

/-- To tell and print nothing lasts. -/
lemma Session.lasting_adds (session : Session β) : Lasting fun s => session.Adds s [] "" where
  record event s h := h.after (s.adds_record event)
  goOn _ _ h := ⟨h.files, h.messages, h.printed⟩

/-- Two steps come to a value if both do. -/
lemma Act.bind_eq_ok_iff {σ α γ : Type} {m : Act σ α} {f : α → Act σ γ} {s t : σ} {c : γ} :
    (m >>= f) s = (.ok c, t) ↔ ∃ a r, m s = (.ok a, r) ∧ f a r = (.ok c, t) := by
  rw [bind_apply]
  rcases m s with ⟨fault | a, r⟩
  · constructor
    · rintro ⟨⟩
    · rintro ⟨_, _, ⟨⟩, _⟩
  · constructor
    · exact fun h => ⟨a, r, rfl, h⟩
    · rintro ⟨_, _, ⟨⟩, h⟩
      exact h

namespace CommandLine.Run

section Steps

variable [Platform] (run : Run β) (config : RunConfig) {s t : Session β} {u : Unit}

lemma adds_configure (invocation : Invocation) (s : Session β) :
    s.Adds (run.configure invocation s).2 [] "" := by
  suffices h : (run.configure invocation).Keeps fun t => s.Adds t [] "" from h s (.refl s)
  refine Act.Keeps.bind (fun _ h => h) fun files => ?_
  refine (Act.keeps_ofExcept _).bind fun settings => ?_
  refine (Act.keeps_ofExcept _).bind fun threshold => ?_
  refine Act.Keeps.bind (fun t h => ⟨h.files, h.messages, h.printed⟩) fun _ => ?_
  refine (Act.keeps_ofExcept _).bind fun config => ?_
  exact (Act.keeps_log s.lasting_adds _).bind fun _ _ h => h

/-! ### Warnings and results -/

omit [Platform] in
lemma adds_tellMessage {message : Except MarkupFault String}
    (h : Session.tellMessage message s = (.ok u, t)) :
    ∃ text, message = .ok text ∧ s.Adds t [text] "" := by
  cases message with
  | error fault => cases h
  | ok text =>
    cases h
    exact ⟨text, rfl, rfl, by simp [Session.messages, Note.told?], String.append_empty.symm⟩

/-- A message that is told as a warning. A plain one is shown as it is, on as many lines as it
needs. -/
structure Warned (width : ℕ) (message told : String) : Prop where
  shown : Console.Message.warning width message = .ok told
  plain : Console.Markup.IsUnmarked ("⚠ " ++ message).toList →
    Console.Markup.Literal ("⚠ " ++ message).toList →
    told = Console.Message.ended (Console.flow width ("⚠ " ++ message).toList)

lemma warned_of_eq_ok {width : ℕ} {message told : String}
    (h : Console.Message.warning width message = .ok told) : Warned width message told :=
  ⟨h, fun hmarked hliteral =>
    Except.ok.inj (h.symm.trans (Console.Message.warning_eq width hmarked hliteral))⟩

/-- The second list has the texts of the first as warnings show them. -/
def Warns (width : ℕ) : List String → List String → Prop := List.Forall₂ (Warned width)

/-- Every missing name is warned about. -/
lemma adds_warnOfMissing {width : ℕ} {kind : String} {names : List String}
    (h : warnOfMissing width kind names s = (.ok u, t)) :
    ∃ told, Warns width (names.map (missingText kind)) told ∧ s.Adds t told "" := by
  induction names generalizing s with
  | nil =>
    cases h
    exact ⟨[], .nil, .refl _⟩
  | cons name rest ih =>
    obtain ⟨_, r, hfirst, hrest⟩ := Act.bind_eq_ok_iff.1 h
    obtain ⟨text, htext, hadds⟩ := adds_tellMessage hfirst
    obtain ⟨told, htold, hrest⟩ := ih hrest
    exact ⟨text :: told, .cons (warned_of_eq_ok htext) htold, by simpa using hadds.trans hrest⟩

/-- What the warning of ignored alerting rules says, if there is one. -/
def ignoredTexts (names : List String) : List String :=
  if names = [] then [] else [ignoringText names]

lemma adds_warnOfIgnored {width : ℕ} {selection : RuleSelection}
    (h : warnOfIgnored width selection s = (.ok u, t)) :
    ∃ told, Warns width (ignoredTexts selection.names) told ∧ s.Adds t told "" := by
  rw [warnOfIgnored, RuleSelection.selectsAll] at h
  by_cases hnames : selection.names = []
  · rw [hnames] at h
    cases h
    rw [hnames]
    exact ⟨[], .nil, .refl _⟩
  · rw [if_neg (by simpa using hnames)] at h
    obtain ⟨text, htext, hadds⟩ := adds_tellMessage h
    rw [ignoredTexts, if_neg hnames]
    exact ⟨[text], .cons (warned_of_eq_ok htext) .nil, hadds⟩

omit [Platform] in
lemma adds_print {text : String} (h : Session.print text s = (.ok u, t)) : s.Adds t [] text := by
  cases h
  exact ⟨rfl, (List.append_nil _).symm, rfl⟩

lemma adds_showReport {width : ℕ} {asDocument : Bool} {report : InspectionReport} {code : ℕ}
    (h : showReport width asDocument report s = (.ok code, t)) :
    ∃ printed, report.Shows width asDocument printed ∧ s.Adds t [] printed := by
  cases asDocument with
  | true =>
    obtain ⟨_, r, hprint, hcode⟩ := Act.bind_eq_ok_iff.1 h
    cases hcode
    exact ⟨_, report.shows_document width, adds_print hprint⟩
  | false =>
    obtain ⟨_, r, hreport, hcode⟩ := Act.bind_eq_ok_iff.1 h
    cases hcode
    obtain ⟨_, q, hprint, hresult⟩ := Act.bind_eq_ok_iff.1 hreport
    obtain rfl : q = t := congrArg Prod.snd hresult
    have hwritten : writtenUntilFault (report.output width) =
        ((writtenUntilFault (report.output width)).1, .ok ()) :=
      Prod.ext rfl (congrArg Prod.fst hresult)
    exact ⟨_, InspectionReport.shows_output width hwritten, adds_print hprint⟩

/-- Fixtures are printed as a document, or the document is saved and announced. -/
inductive Delivered (width : ℕ) (output : Option String) (fixtures : List Fixture)
    (s t : Session β) : Prop
  | printed (houtput : output.filter (· ≠ "") = none) (h : s.Adds t [] (document config fixtures))
  | saved {path told : String} (houtput : output.filter (· ≠ "") = some path)
    (hsaved : s.files.Saved path (document config fixtures) t.files)
    (hannounced : announcement width fixtures path = .ok told)
    (hmessages : t.messages = s.messages ++ [told]) (hprinted : t.printed = s.printed)

lemma delivered_of_deliver {width : ℕ} {output : Option String} {fixtures : List Fixture} {code : ℕ}
    (h : deliver config width output fixtures s = (.ok code, t)) :
    Delivered config width output fixtures s t := by
  rw [deliver] at h
  cases houtput : output.filter (· ≠ "") with
  | none =>
    rw [houtput] at h
    obtain ⟨_, r, hprint, hcode⟩ := Act.bind_eq_ok_iff.1 h
    cases hcode
    exact .printed houtput (adds_print hprint)
  | some path =>
    rw [houtput] at h
    obtain ⟨_, r, hsave, h⟩ := Act.bind_eq_ok_iff.1 h
    obtain ⟨_, _, htell, hcode⟩ := Act.bind_eq_ok_iff.1 h
    cases hcode
    obtain ⟨told, hannounced, hadds⟩ := adds_tellMessage htell
    obtain ⟨fault, next, hfault, -⟩ | ⟨files, hfiles, hsaved⟩ :=
      save_apply path (document config fixtures) s
    · cases hsave.symm.trans hfault
    · cases hsave.symm.trans hfiles
      refine .saved houtput ?_ hannounced hadds.messages ?_
      · rw [hadds.files]
        exact hsaved
      · simpa using hadds.printed

/-! ### The end of a run -/

/-- How a run ends that accounts for all names that its flags give. -/
inductive Accounted (invocation : Invocation) (catalog : RuleCatalog) (s t : Session β) : Prop
  /-- The rules in the report account for the names, of each kind, and what is printed shows their
  names. -/
  | reported {report : InspectionReport} {recording alerting told : List String} {printed : String}
    (hcommand : invocation.command = .inspect)
    (hrecording : RuleSelection.Accounts (invocation.values .recordingRule) catalog.recording
      (report.recordingRules.map RuleReport.name) recording)
    (halerting : RuleSelection.Accounts (invocation.values .alertingRule) catalog.alerting
      (report.alertingRules.map RuleReport.name) alerting)
    (hwarned : Warns run.width (recording.map (missingText "Recording") ++
      alerting.map (missingText "Alerting")) told)
    (hshown : report.Shows run.width (invocation.output? = some "json") printed)
    (h : s.Adds t told printed)
  /-- The expressions of the fixtures account for the names of recording rules, and the document
  that is delivered tests them. -/
  | made {fixtures : List Fixture} {recording told : List String} {content : Json} {r : Session β}
    (hcommand : invocation.command = .generate)
    (hrecording : RuleSelection.Accounts (invocation.values .recordingRule) catalog.recording
      (fixtures.map fun fixture => fixture.test.expr) recording)
    (hwarned : Warns run.width (ignoredTexts (RuleSelection.given (invocation.values .alertingRule))
      ++ recording.map (missingText "Recording")) told)
    (hwarnings : s.Adds r told "")
    (hcontent : document config fixtures = Yaml.document content)
    (htested : content.testedExpressions = some (fixtures.map fun fixture => fixture.test.expr))
    (hdelivered : Delivered config run.width invocation.output? fixtures r t)

omit [Platform] in
/-- A report on rules accounts for the names that are given for each kind. -/
lemma accounts_ofCatalog [PromQL.Language] {catalog : RuleCatalog}
    {recording alerting : List String} {report : InspectionReport}
    (h : (InspectionReport.ofCatalog catalog (RuleSelection.ofFlags recording).selects
      (RuleSelection.ofFlags alerting).selects s).1 = .ok report) :
    RuleSelection.Accounts recording catalog.recording (report.recordingRules.map RuleReport.name)
        ((RuleSelection.ofFlags recording).missingFrom catalog.recording.keys) ∧
      RuleSelection.Accounts alerting catalog.alerting (report.alertingRules.map RuleReport.name)
        ((RuleSelection.ofFlags alerting).missingFrom catalog.alerting.keys) := by
  obtain ⟨alertingReports, halerting, h⟩ := Act.fst_bind_eq_ok_iff.1 h
  obtain ⟨recordingReports, hrecording, h⟩ := Act.fst_bind_eq_ok_iff.1 h
  cases h
  obtain ⟨sorted, hsorted, hnames⟩ := RuleReport.names_ofTable hrecording
  obtain ⟨sorted', hsorted', hnames'⟩ := RuleReport.names_ofTable halerting
  rw [hnames, hnames']
  exact ⟨RuleSelection.accounts_filter hsorted recording,
    RuleSelection.accounts_filter hsorted' alerting⟩

omit [Platform] in
/-- Fixtures account for the names of recording rules that are given. -/
lemma accounts_all [PromQL.Language] {gateway : Gateway (Session β)} {g : Generator}
    {recording : List String} {now : Instant} {fixtures : List Fixture}
    (h : (g.all gateway (RuleSelection.ofFlags recording).selects now s).1 = .ok fixtures) :
    RuleSelection.Accounts recording g.catalog.recording
      (fixtures.map fun fixture => fixture.test.expr)
      ((RuleSelection.ofFlags recording).missingFrom g.catalog.recording.keys) := by
  obtain ⟨sorted, hsorted, hexprs⟩ := g.exprs_of_all h
  rw [hexprs]
  exact RuleSelection.accounts_filter hsorted recording

/-! ### The commands -/

section Commands

variable [PromQL.Language] {session : Session β} {invocation : Invocation}
  {catalog : RuleCatalog} {code : ℕ}
  (hpicked : config.recordingRules = invocation.picked .recordingRule ∧
    config.alertingRules = invocation.picked .alertingRule)
  (hadds : session.Adds s [] "")

include hpicked hadds

/-- A report that is shown accounts for the names. -/
lemma accounted_of_inspect (hcommand : invocation.command = .inspect)
    (h : run.inspect config (invocation.output? = some "json") s = (.ok code, t)) :
    ∃ gateway catalog, (run.listing config s).1 = .ok (gateway, catalog) ∧
      Accounted run config invocation catalog session t := by
  rw [inspect_eq] at h
  obtain ⟨⟨gateway, catalog⟩, r, hlisted, h⟩ := Act.bind_eq_ok_iff.1 h
  obtain ⟨_, r₁, hrecording, h⟩ := Act.bind_eq_ok_iff.1 h
  obtain ⟨_, r₂, halerting, h⟩ := Act.bind_eq_ok_iff.1 h
  obtain ⟨report, r₃, hreport, h⟩ := Act.bind_eq_ok_iff.1 h
  -- what each step adds to the notes and to what is printed
  obtain ⟨told, htold, hwarned⟩ := adds_warnOfMissing hrecording
  obtain ⟨further, hfurther, hwarned'⟩ := adds_warnOfMissing halerting
  have hlisting : s.Adds r [] "" := by
    have hkept := run.keeps_listing s.lasting_adds config s (.refl s)
    rwa [hlisted] at hkept
  have hreporting : r₂.Adds r₃ [] "" := by
    have hkept := keeps_ofCatalog r₂.lasting_adds catalog config.recordingRules.selects
      config.alertingRules.selects r₂ (.refl r₂)
    rwa [hreport] at hkept
  have hend := (((hadds.after hlisting).after hwarned).trans hwarned').before hreporting
  rw [hpicked.1, hpicked.2] at hreport
  have haccounts := accounts_ofCatalog (congrArg Prod.fst hreport)
  rw [hpicked.1] at htold
  rw [hpicked.2] at hfurther
  obtain ⟨printed, hshown, hprinted⟩ := adds_showReport h
  refine ⟨gateway, catalog, congrArg Prod.fst hlisted, .reported hcommand haccounts.1 haccounts.2
    (List.rel_append htold hfurther) hshown ?_⟩
  simpa using hend.trans hprinted

/-- Fixtures that are delivered account for the names. -/
lemma accounted_of_generate (hcommand : invocation.command = .generate)
    (h : run.generate config invocation.output? s = (.ok code, t)) :
    ∃ r gateway catalog, s.SameOutside r ∧
      (run.listing config r).1 = .ok (gateway, catalog) ∧
      Accounted run config invocation catalog session t := by
  rw [generate_eq] at h
  obtain ⟨_, r, hignored, h⟩ := Act.bind_eq_ok_iff.1 h
  obtain ⟨⟨gateway, catalog⟩, r₁, hlisted, h⟩ := Act.bind_eq_ok_iff.1 h
  obtain ⟨_, r₂, hrecording, h⟩ := Act.bind_eq_ok_iff.1 h
  obtain ⟨fixtures, r₃, hmade, hdeliver⟩ := Act.bind_eq_ok_iff.1 h
  have hquiet : s.SameOutside r := by
    have hquiet := quiet_warnOfIgnored run.width config.alertingRules s
    rwa [hignored] at hquiet
  -- what each step adds to the notes: only the two warnings add something
  obtain ⟨told, htold, hwarned⟩ := adds_warnOfIgnored hignored
  obtain ⟨further, hfurther, hwarned'⟩ := adds_warnOfMissing hrecording
  have hlisting : r.Adds r₁ [] "" := by
    have hkept := run.keeps_listing r.lasting_adds config r (.refl r)
    rwa [hlisted] at hkept
  obtain ⟨client, rfl⟩ := run.gateway_of_listing config (congrArg Prod.fst hlisted)
  have hmaking : r₂.Adds r₃ [] "" := by
    have hkept := run.keeps_all r₂.lasting_adds client { catalog } config.recordingRules.selects r₂
      (.refl r₂)
    rwa [hmade] at hkept
  have hend := (((hadds.after hwarned).before hlisting).trans hwarned').before hmaking
  rw [hpicked.1] at hmade hfurther
  rw [hpicked.2, Invocation.picked, RuleSelection.names_ofFlags] at htold
  exact ⟨r, _, catalog, hquiet, congrArg Prod.fst hlisted, .made hcommand
    (accounts_all (congrArg Prod.fst hmade)) (List.rel_append htold hfurther) (by simpa using hend)
    rfl (TestFile.testedExpressions_toJson ⟨fixtures, .ofMinutes 1, config.ruleFiles⟩)
    (delivered_of_deliver config hdeliver)⟩

end Commands

/-- A run ends well if its command does. -/
lemma perform_of_start [PromQL.Language] {session next : Session β} {arguments : List String}
    {invocation : Invocation} (hread : Invocation.read arguments = .ok invocation)
    (hrun : (run.start arguments).run session = (0, next)) :
    run.perform invocation session = (.ok 0, next) := by
  have hstart : run.start arguments = guarded true (run.perform invocation) := by
    rw [start, hread]
  rw [hstart] at hrun
  rcases hperform : run.perform invocation session with ⟨fault | code, last⟩
  · rw [guarded_of_error hperform] at hrun
    exact absurd (congrArg Prod.fst hrun) fault.exitCode_ne_zero
  · rw [guarded_of_ok hperform] at hrun
    cases hrun
    rfl

/-- A run with the exit code 0 accounts for every name that is given, by the rules that it loads. -/
theorem start_accounts [PromQL.Language] {session next : Session β} {arguments : List String}
    {invocation : Invocation} (hread : Invocation.read arguments = .ok invocation)
    (hrun : (run.start arguments).run session = (0, next)) :
    ∃ config catalog, run.Loads session invocation config catalog ∧
      Accounted run config invocation catalog session next := by
  have hperform := run.perform_of_start hread hrun
  rw [perform_eq] at hperform
  obtain ⟨config, s, hconfigured, h⟩ := Act.bind_eq_ok_iff.1 hperform
  -- what the settings leave behind: the same files and backend, and nothing printed
  have hquiet : session.SameOutside s := by
    have hquiet := run.quiet_configure invocation session
    rwa [hconfigured] at hquiet
  have hadds : session.Adds s [] "" := by
    have hadds := run.adds_configure invocation session
    rwa [hconfigured] at hadds
  have hconfig := run.configuration_of_configure (congrArg Prod.fst hconfigured)
  have hpicked := run.picked_of_configuration hconfig
  -- The rules are those that are loaded at the start.
  have hloads {r : Session β} {gateway : Gateway (Session β)} {catalog : RuleCatalog}
      (hsame : session.SameOutside r)
      (hlisted : (run.listing config r).1 = .ok (gateway, catalog)) :
      run.Loads session invocation config catalog :=
    ⟨hconfig, gateway, (run.fst_listing_picking config hsame config.recordingRules
      config.alertingRules).symm.trans hlisted⟩
  cases hcommand : invocation.command with
  | inspect =>
    rw [hcommand] at h
    obtain ⟨gateway, catalog, hlisted, haccounted⟩ :=
      run.accounted_of_inspect config hpicked hadds hcommand h
    exact ⟨config, catalog, hloads hquiet hlisted, haccounted⟩
  | generate =>
    rw [hcommand] at h
    obtain ⟨r, gateway, catalog, hsame, hlisted, haccounted⟩ :=
      run.accounted_of_generate config hpicked hadds hcommand h
    exact ⟨config, catalog, hloads (hquiet.trans hsame) hlisted, haccounted⟩

end Steps

/-- A report on a rule and on one that is gone. -/
theorem start_accounts_goneRule :
    (reportEnd ["job:up", "job:gone"]).1 = 0 ∧
      ∃ config catalog, keepingRun.Loads unasked (reportInvocation ["job:up", "job:gone"]) config
          catalog ∧
        Accounted keepingRun config (reportInvocation ["job:up", "job:gone"]) catalog unasked
          (reportEnd ["job:up", "job:gone"]).2 := by
  have hread : Invocation.read (reportOn ["job:up", "job:gone"]) =
      .ok (reportInvocation ["job:up", "job:gone"]) := by
    decide +kernel
  obtain ⟨-, hcode, -⟩ := reportEnd_oneRule
  -- the run is kept as `reportEnd`: its exit code is known, so nothing has to be run again
  have hend : (keepingRun.start (reportOn ["job:up", "job:gone"])).run unasked =
      (0, (reportEnd ["job:up", "job:gone"]).2) :=
    calc (keepingRun.start (reportOn ["job:up", "job:gone"])).run unasked
        = reportEnd ["job:up", "job:gone"] := by rw [reportEnd]
      _ = ((reportEnd ["job:up", "job:gone"]).1, (reportEnd ["job:up", "job:gone"]).2) :=
        Prod.mk.eta.symm
      _ = (0, (reportEnd ["job:up", "job:gone"]).2) := by rw [hcode]
  exact ⟨hcode, keepingRun.start_accounts hread hend⟩

end CommandLine.Run

end RuleFixtures
