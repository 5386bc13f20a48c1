import RuleFixtures.Proofs.CommandLine.FurtherNames
import RuleFixtures.Proofs.CommandLine.Lasting
import RuleFixtures.Proofs.FaultReport

/-!
The error stream of a run that fails.

With the log at its default, a run that fails notes its warnings, if it has any, and behind them the
report on its fault. The report is one line just if no text that the fault passes on has a line
feed.

* `Note.IsWarning` holds of warnings, be they logged or told.
* `Session.OnlyWarned`: nothing has been noted since a session but warnings. This lasts through the
  long steps of a run, by `Session.lasting_onlyWarned`.
* `Run.LogsWarnings` says that the log is at its default; `Run.onlyWarned_of_perform`: nothing but
  warnings is noted then up to the fault of a run.
* `Run.start_fails` is what a failing run leaves on the error stream.
-/

namespace RuleFixtures

variable {β : Type}

/-! ### Warnings -/

/-- A note that is a warning, be it logged or told on a console of a width. -/
def Note.IsWarning [Platform] (width : ℕ) : Note → Prop
  | .logged event => event.level = .warning
  | .told text => ∃ message, Console.Message.warning width message = .ok text

/-- The log takes warnings, and nothing is noted since a session but such. -/
structure Session.OnlyWarned [Platform] (width : ℕ) (session s : Session β) : Prop where
  threshold : s.threshold = Log.Level.warning.rank
  notes : ∃ warnings, s.notes = session.notes ++ warnings ∧
    ∀ note ∈ warnings, note.IsWarning width

section Warnings

variable [Platform] {width : ℕ}

lemma Session.OnlyWarned.note {session s t : Session β} (h : session.OnlyWarned width s)
    {note : Note} (hnote : note.IsWarning width) (hthreshold : t.threshold = s.threshold)
    (hnotes : t.notes = s.notes ++ [note]) : session.OnlyWarned width t := by
  obtain ⟨warnings, hwarnings, hall⟩ := h.notes
  refine ⟨hthreshold.trans h.threshold, warnings ++ [note], ?_, ?_⟩
  · rw [hnotes, hwarnings, List.append_assoc]
  · exact List.forall_mem_append.2 ⟨hall, List.forall_mem_singleton.2 hnote⟩

omit [Platform] in
/-- Warnings are the events of the highest level. -/
lemma Log.Level.rank_le_iff (level : Log.Level) :
    Log.Level.warning.rank ≤ level.rank ↔ level = .warning := by
  cases level <;> decide

/-- An event is noted if it is a warning. -/
lemma Session.lasting_onlyWarned (session : Session β) (width : ℕ) :
    Lasting (session.OnlyWarned width) where
  record event s h := by
    simp only [Log.Journal.record]
    split
    · next hnoted =>
      rw [h.threshold, Log.Level.rank_le_iff] at hnoted
      have hwarning : (Note.logged event).IsWarning width := hnoted
      exact h.note hwarning rfl rfl
    · exact h
  goOn _ _ h := ⟨h.threshold, h.notes⟩

end Warnings

namespace CommandLine.Run

section Steps

variable [Platform] (run : Run β) (config : RunConfig) {width : ℕ} {session : Session β}

/-! ### The steps -/

lemma onlyWarned_tellMessage (message : String) :
    (Session.tellMessage (Console.Message.warning width message)).Keeps
      (session.OnlyWarned width) := by
  intro s h
  cases hmessage : Console.Message.warning width message with
  | error fault => exact h
  | ok told =>
    have hwarning : (Note.told told).IsWarning width := ⟨message, hmessage⟩
    exact h.note hwarning rfl rfl

lemma onlyWarned_warnOfMissing (kind : String) (names : List String) :
    (warnOfMissing width kind names).Keeps (session.OnlyWarned width) := by
  induction names with
  | nil => exact fun _ h => h
  | cons name rest ih => exact (onlyWarned_tellMessage _).bind fun _ => ih

lemma onlyWarned_warnOfIgnored (selection : RuleSelection) :
    (warnOfIgnored width selection).Keeps (session.OnlyWarned width) := by
  rw [warnOfIgnored]
  split
  · exact fun _ h => h
  · exact onlyWarned_tellMessage _

lemma onlyWarned_showReport (asDocument : Bool) (report : InspectionReport) :
    (showReport width asDocument report).Keeps (session.OnlyWarned width) := by
  have hprint (text : String) : (Session.print text).Keeps (session.OnlyWarned width) :=
    fun _ h => ⟨h.threshold, h.notes⟩
  cases asDocument with
  | true => exact (hprint _).bind fun _ _ h => h
  | false => exact ((hprint _).bind fun _ => Act.keeps_ofExcept _).bind fun _ _ h => h

/-- The last step notes nothing if it fails; else it may announce a file. -/
lemma onlyWarned_deliver (output : Option String) (fixtures : List Fixture) :
    (deliver config width output fixtures).KeepsFailing (session.OnlyWarned width) := by
  rw [deliver]
  split
  · next path _ =>
    -- saving notes nothing; once the message on the file is told the run cannot fail any more
    have hsave : (save path (document config fixtures)).Keeps (session.OnlyWarned width) := by
      have hchange (change : Files → Except FileFault Files) :
          (Session.changeFiles change).Keeps (session.OnlyWarned width) := by
        intro s h
        rw [Session.changeFiles]
        split
        · exact ⟨h.threshold, h.notes⟩
        · exact h
      exact (hchange _).bind fun _ => hchange _
    refine hsave.bind_failing fun _ _ s fault next hs h => ?_
    cases hannounced : announcement width fixtures path with
    | error fault =>
      rw [hannounced] at h
      cases h
      exact hs
    | ok told =>
      rw [hannounced] at h
      cases h
  · rintro s fault next hs ⟨⟩

/-- The log starts at its default, and the settings leave it there if they are read. -/
def LogsWarnings (invocation : Invocation) (session : Session β) : Prop :=
  session.threshold = Log.Level.warning.rank ∧
    ∀ settings, Settings.load run.environment session.files = .ok settings →
      thresholdOf invocation.verbose settings = .ok Log.Level.warning.rank

/-- The log is at its default when the command starts, and nothing is noted yet. -/
lemma onlyWarned_configure {invocation : Invocation}
    (hlevel : run.LogsWarnings invocation session) (width : ℕ) :
    session.OnlyWarned width (run.configure invocation session).2 := by
  have hstart : session.OnlyWarned width session :=
    ⟨hlevel.1, [], (List.append_nil _).symm, fun _ h => absurd h List.not_mem_nil⟩
  rw [configure, Act.bind_apply]
  dsimp only [Session.currentFiles]
  cases hsettings : Settings.load run.environment session.files with
  | error fault => exact hstart
  | ok settings =>
    rw [Act.bind_apply]
    dsimp only [Act.ofExcept]
    rw [hlevel.2 settings hsettings]
    -- behind the settings the threshold is set, to what it is
    change session.OnlyWarned width ((do
      let config ← Act.ofExcept (invocation.config settings).validate
      Act.log (.runConfigured invocation.command.name config.url)
      return config : Act (Session β) RunConfig)
        { session with threshold := Log.Level.warning.rank }).2
    refine (Act.Keeps.bind (Act.keeps_ofExcept _) fun config => ?_) _ ⟨rfl, hstart.notes⟩
    exact (Act.keeps_log (session.lasting_onlyWarned width) _).bind fun _ _ h => h

/-! ### The commands -/

lemma onlyWarned_inspect [PromQL.Language] (asDocument : Bool) :
    (run.inspect config asDocument).KeepsFailing (session.OnlyWarned run.width) := by
  have hlasting := session.lasting_onlyWarned run.width
  rw [inspect_eq]
  refine Act.Keeps.failing ?_
  refine (run.keeps_listing hlasting config).bind fun ⟨gateway, catalog⟩ => ?_
  refine (onlyWarned_warnOfMissing _ _).bind fun _ => ?_
  refine (onlyWarned_warnOfMissing _ _).bind fun _ => ?_
  refine (keeps_ofCatalog hlasting catalog _ _).bind fun report => ?_
  exact onlyWarned_showReport asDocument report

lemma onlyWarned_generate [PromQL.Language] (output : Option String) :
    (run.generate config output).KeepsFailing (session.OnlyWarned run.width) := by
  have hlasting := session.lasting_onlyWarned run.width
  rw [generate_eq]
  refine (onlyWarned_warnOfIgnored _).bind_failing fun _ _ => ?_
  refine (run.keeps_listing hlasting config).bind_failing fun ⟨gateway, catalog⟩ hlisted => ?_
  obtain ⟨s, hlisted⟩ := hlisted
  obtain ⟨client, rfl⟩ := run.gateway_of_listing config hlisted
  refine (onlyWarned_warnOfMissing _ _).bind_failing fun _ _ => ?_
  refine (run.keeps_all hlasting client { catalog } _).bind_failing fun fixtures _ => ?_
  exact onlyWarned_deliver config output fixtures

/-- At the fault of a run nothing is noted but warnings. -/
lemma onlyWarned_of_perform [PromQL.Language] {invocation : Invocation} {fault : Fault}
    {next : Session β} (hlevel : run.LogsWarnings invocation session)
    (h : run.perform invocation session = (.error fault, next)) :
    session.OnlyWarned run.width next := by
  have hstart := run.onlyWarned_configure hlevel run.width
  rw [perform_eq] at h
  obtain ⟨_, -, hrun⟩ | ⟨config, -, hrun⟩ := Act.bind_cases (run.configure invocation) _ session
  · rw [hrun] at h
    cases h
    exact hstart
  · rw [hrun] at h
    cases hcommand : invocation.command with
    | inspect =>
      rw [hcommand] at h
      exact run.onlyWarned_inspect config _ _ fault next hstart h
    | generate =>
      rw [hcommand] at h
      exact run.onlyWarned_generate config _ _ fault next hstart h

/-- A run that fails with the log at its default has the exit code 2. It notes its warnings, if it
has any, and then the report on its fault. This is one line just if no text that the fault passes on
has a line feed. -/
theorem start_fails [PromQL.Language] {arguments : List String} {invocation : Invocation}
    {fault : Fault} (hread : Invocation.read arguments = .ok invocation)
    (hlevel : run.LogsWarnings invocation session)
    (hfault : (run.perform invocation session).1 = .error fault) (hother : fault ≠ .interrupted) :
    ((run.start arguments).run session).1 = 2 ∧
      (∃ warnings : List Note, (∀ note ∈ warnings, note.IsWarning run.width) ∧
        ((run.start arguments).run session).2.notes =
          session.notes ++ warnings ++ [.told fault.report]) ∧
      (IsLine fault.report ↔ ∀ text ∈ fault.passedOn, ¬ Breaks text) := by
  have hstart : run.start arguments = guarded true (run.perform invocation) := by
    rw [start, hread]
  have hrun : run.perform invocation session =
      (.error fault, (run.perform invocation session).2) := Prod.ext hfault rfl
  have hwarned := run.onlyWarned_of_perform hlevel hrun
  obtain ⟨warnings, hwarnings, hall⟩ := hwarned.notes
  -- the event of the fault is below the threshold
  have hquiet : ¬ (run.perform invocation session).2.threshold ≤ fault.event.level.rank := by
    rw [hwarned.threshold, Log.Level.rank_le_iff]
    cases fault <;> simp [Fault.event, Log.Event.level] at hother ⊢
  rw [hstart, guarded_of_error hrun]
  refine ⟨?_, ⟨warnings, hall, ?_⟩, Fault.isLine_report_iff hother⟩
  · cases fault <;> simp [Fault.exitCode] at hother ⊢
  · simp only [Session.afterFault, Log.Journal.record, if_neg hquiet]
    rw [hwarnings]

end Steps

end CommandLine.Run

/-! ### A text of a backend over two lines -/

/-- The answer of a backend that reports an error, of two lines. -/
def twoLines : List Char := "\x7b\"status\":\"error\",\"error\":\"a\\nb\"\x7d".toList

/-- What is asked for by a report on all rules. -/
def reportOnAll : CommandLine.Invocation := ⟨.inspect, [⟨.url, some "http://p:9090"⟩]⟩

/-- The failure of a backend that reports an error. -/
def reported (error : String) : Fault :=
  .failure (.answer .rules "http://p:9090/api/v1/rules" (.reported error))

/-- A run against a backend that reports an error. -/
theorem start_fails_twoLines :
    let result := (scriptedRun.start ["inspect", "-url", "http://p:9090"]).run (awaiting [twoLines])
    result.1 = 2 ∧
      (∃ warnings : List Note, (∀ note ∈ warnings, note.IsWarning 80) ∧
        result.2.notes = warnings ++ [.told (reported "a\nb").report]) ∧
      (IsLine (reported "a\nb").report ↔ ∀ text ∈ (reported "a\nb").passedOn, ¬ Breaks text) := by
  have hread : CommandLine.Invocation.read ["inspect", "-url", "http://p:9090"] =
      .ok reportOnAll := by
    decide +kernel
  have hfault : (scriptedRun.perform reportOnAll (awaiting [twoLines])).1 =
      .error (reported "a\nb") := by
    decide +kernel
  have hsettings : Settings.load scriptedRun.environment (awaiting [twoLines]).files = .ok {} := by
    decide +kernel
  have hlevel : scriptedRun.LogsWarnings reportOnAll (awaiting [twoLines]) := by
    refine ⟨rfl, fun settings h => ?_⟩
    obtain rfl : {} = settings := Except.ok.inj (hsettings.symm.trans h)
    decide +kernel
  exact scriptedRun.start_fails hread hlevel hfault nofun

/-- The error of a backend is passed on as it is, so the error stream has two lines. -/
theorem start_breaks_line :
    let result := (scriptedRun.start ["inspect", "-url", "http://p:9090"]).run (awaiting [twoLines])
    result.1 = 2 ∧
      result.2.notes = [.told ("failed to get rules: Prometheus API error: a\nb " ++
        "(url=http://p:9090/api/v1/rules)" ++ "\n")] ∧
      ∀ stamp, ¬ IsLine (result.2.errorText stamp) := by
  have hnotes : ((scriptedRun.start ["inspect", "-url", "http://p:9090"]).run
      (awaiting [twoLines])).2.notes = [.told ("failed to get rules: Prometheus API error: a\nb " ++
        "(url=http://p:9090/api/v1/rules)" ++ "\n")] := by
    decide +kernel
  have hlines : ¬ IsLine ("failed to get rules: Prometheus API error: a\nb " ++
      "(url=http://p:9090/api/v1/rules)" ++ "\n") := by
    rw [isLine_append_iff]
    decide
  refine ⟨by decide +kernel, hnotes, fun stamp => ?_⟩
  rw [Session.errorText, hnotes]
  change ¬ IsLine ("" ++ _)
  rw [String.empty_append]
  exact hlines

end RuleFixtures
