import RuleFixtures.Proofs.Backend.Containment
import RuleFixtures.Proofs.CommandLine.Steps
import RuleFixtures.Proofs.Fixtures.Isolation
import RuleFixtures.Proofs.Writing

/-!
What a run leaves behind when it makes fixtures.

The output and the files are written in one step at the end of a run, so that a run which fails has
written nothing. There is one exception: the message on a file that was written reads markup, and if
that is at fault the run fails with its file in place.

* `Run.making` makes the fixtures of all selected rules, and tells nothing.
* `Run.Ending` lists the four ways in which a run ends.
* `Run.generate_apply` is the run up to its last step, `Run.deliver_ends` is that step.
* `Run.start_ends`: every run of the command ends in one of the four ways.
-/

namespace RuleFixtures

namespace CommandLine.Run

variable {β : Type} [Platform] [PromQL.Language] (run : Run β) (config : RunConfig)

/-- Makes the fixtures of the selected rules, and gives them with all rules that are loaded. -/
def making : Act (Session β) (RuleCatalog × List Fixture) := do
  let (gateway, catalog) ← run.listing config
  let generator : Generator := { catalog }
  return (catalog, ← generator.all gateway config.recordingRules.selects run.now)

/-- The fixtures are made of what the backend answers in a session, one for each selected rule in
the order of the names. -/
def Makes (session : Session β) (fixtures : List Fixture) : Prop :=
  ∃ catalog names, (run.making config session).1 = .ok (catalog, fixtures) ∧
    RuleCatalog.sortedNames catalog.recording = .ok names ∧
    fixtures.map (fun fixture => fixture.test.expr) = names.filter config.recordingRules.selects

/-- How a run that makes fixtures ends, by its exit code and the session that it leaves. -/
inductive Ending (output : Option String) (session : Session β) : ℕ × Session β → Prop where
  /-- The run fails and has written nothing. -/
  | failed {code : ℕ} {next : Session β} (hcode : code ≠ 0)
    (hprinted : next.printed = session.printed)
    (hcontents : next.files.contents = session.files.contents) : Ending output session (code, next)
  /-- The document is printed. -/
  | printed {next : Session β} {fixtures : List Fixture} (hmade : run.Makes config session fixtures)
    (houtput : output.filter (· ≠ "") = none)
    (hprinted : next.printed = session.printed ++ document config fixtures)
    (hfiles : next.files = session.files) : Ending output session (0, next)
  /-- The document is written to the file. -/
  | saved {next : Session β} {fixtures : List Fixture} {path : String}
    (hmade : run.Makes config session fixtures) (houtput : output.filter (· ≠ "") = some path)
    (hprinted : next.printed = session.printed)
    (hsaved : session.files.Saved path (document config fixtures) next.files)
    {told : String} (htold : announcement run.width fixtures path = .ok told) :
    Ending output session (0, next)
  /-- The document is written to the file, but the message on it cannot be shown. -/
  | unannounced {code : ℕ} {next : Session β} {fixtures : List Fixture} {path : String}
    (hmade : run.Makes config session fixtures) (houtput : output.filter (· ≠ "") = some path)
    (hprinted : next.printed = session.printed)
    (hsaved : session.files.Saved path (document config fixtures) next.files)
    {fault : MarkupFault} (hfault : announcement run.width fixtures path = .error fault)
    (hcode : code ≠ 0) :
    Ending output session (code, next)

/-! ### The end of a run -/

omit [Platform] [PromQL.Language] in
/-- A document is saved, or the fault leaves all texts as they are. -/
lemma save_apply (path document : String) (s : Session β) :
    (∃ fault next, save path document s = (.error fault, next) ∧ next.printed = s.printed ∧
        next.files.contents = s.files.contents) ∨
      ∃ files, save path document s = (.ok (), { s with files }) ∧
        s.files.Saved path document files := by
  rw [save, Act.bind_apply, Session.changeFiles]
  cases hmade : s.files.makeDirectories (FilePath.ofString path).parent with
  | error fault => exact .inl ⟨_, _, rfl, rfl, rfl⟩
  | ok made =>
    simp only [Session.changeFiles]
    cases hwritten : made.write path document with
    | error fault => exact .inl ⟨_, _, rfl, rfl, Files.contents_makeDirectories hmade⟩
    | ok written => exact .inr ⟨written, rfl, Files.saved_of_write hmade hwritten⟩

omit [Platform] [PromQL.Language] in
/-- A message that reads is told on the error stream only. -/
lemma tellMessage_apply (message : Except MarkupFault String) (s : Session β) :
    (∃ fault, message = .error fault ∧
        Session.tellMessage message s = (.error (.markup fault), s)) ∨
      ∃ text next, message = .ok text ∧ Session.tellMessage message s = (.ok (), next) ∧
        s.SameOutside next := by
  cases message with
  | error fault => exact .inl ⟨fault, rfl, rfl⟩
  | ok text => exact .inr ⟨text, _, rfl, rfl, rfl, rfl, rfl⟩

variable {config} {session : Session β} {output : Option String} {fixtures : List Fixture}

variable {s : Session β} (hmade : run.Makes config session fixtures)
  (hfiles : s.files = session.files) (hprinted : s.printed = session.printed)

include hmade hfiles hprinted

/-- A run with a file to write to ends with its file in place, or fails before. -/
lemma deliver_ends_of_path {path : String} (houtput : output.filter (· ≠ "") = some path) :
    run.Ending config output session
      ((guarded true (deliver config run.width output fixtures)).run s) := by
  -- first the file is saved, then the message is told; either may fail
  have hdeliver : deliver config run.width output fixtures s = ((do
      save path (document config fixtures)
      Session.tellMessage (announcement run.width fixtures path)
      return 0 : Act (Session β) ℕ)) s := by
    rw [deliver, houtput]
  rw [Act.bind_apply] at hdeliver
  obtain ⟨fault, next, hsave, hkept, hcontents⟩ | ⟨files, hsave, hsaved⟩ :=
    save_apply path (document config fixtures) s
  · rw [hsave] at hdeliver
    rw [guarded_of_error hdeliver]
    have hafter := next.sameOutside_afterFault fault
    refine .failed fault.exitCode_ne_zero ?_ ?_
    · rw [hafter.printed, hkept, hprinted]
    · rw [hafter.files, hcontents, hfiles]
  · rw [hsave] at hdeliver
    rw [hfiles] at hsaved
    dsimp only at hdeliver
    rw [Act.bind_apply] at hdeliver
    -- The file is written; what is left is the message on it.
    obtain ⟨fault, hfault, htell⟩ | ⟨text, next, htext, htell, hsame⟩ :=
      tellMessage_apply (announcement run.width fixtures path) { s with files }
    · rw [htell] at hdeliver
      rw [guarded_of_error hdeliver]
      have hafter := Session.sameOutside_afterFault (.markup fault) { s with files }
      refine .unannounced hmade houtput (hafter.printed.trans hprinted) ?_ hfault
        (Fault.exitCode_ne_zero _)
      rw [hafter.files]
      exact hsaved
    · rw [htell] at hdeliver
      rw [guarded_of_ok hdeliver]
      refine .saved hmade houtput (hsame.printed.trans hprinted) ?_ htext
      rw [hsame.files]
      exact hsaved

/-- The last step ends the run, whether it comes to a value or to a fault. -/
lemma deliver_ends :
    run.Ending config output session
      ((guarded true (deliver config run.width output fixtures)).run s) := by
  cases houtput : output.filter (· ≠ "") with
  | none =>
    have hrun : deliver config run.width output fixtures s =
        (.ok 0, { s with printed := s.printed ++ document config fixtures }) := by
      rw [deliver, houtput]
      rfl
    rw [guarded_of_ok hrun]
    refine .printed hmade houtput ?_ hfiles
    rw [← hprinted]
  | some path => exact run.deliver_ends_of_path hmade hfiles hprinted houtput

omit hmade hfiles hprinted

/-! ### The run up to its end -/

/-- A run that makes fixtures fails with nothing written, or goes on to its last step. -/
lemma generate_apply {s : Session β} (h : session.SameOutside s) :
    FailsOr session (fun result => ∃ fixtures next, run.Makes config session fixtures ∧
        next.files = session.files ∧ next.printed = session.printed ∧
        result = deliver config run.width output fixtures next) (run.generate config output s) := by
  have hstart : Unwritten session s session := ⟨h.files, h.files, h.backend, h.printed⟩
  rw [generate_eq]
  -- The warning comes first; in the run beside this one there is none.
  have hignored := hstart.of_sameOutside (quiet_warnOfIgnored run.width config.alertingRules s)
  refine failsOr_bind hignored fun _ _ => ?_
  -- The same rules are loaded.
  obtain ⟨hlisted, hlisting⟩ := run.listing_of_unwritten config hignored
  refine failsOr_bind hlisting fun ⟨gateway, catalog⟩ hcatalog => ?_
  obtain ⟨client, rfl⟩ := run.gateway_of_listing config hcatalog
  -- More warnings.
  have hwarned := hlisting.of_sameOutside
    (quiet_warnOfMissing run.width "Recording"
      (config.recordingRules.missingFrom catalog.recording.keys) _)
  refine failsOr_bind hwarned fun _ _ => ?_
  -- The same fixtures are made.
  obtain ⟨hsame, hmade⟩ := Generator.agree_all_of_same (fun _ => rfl)
    (client.agree_gateway (indistinct_unwritten session) (fun _ => rfl) run.transport) { catalog }
    config.recordingRules.selects run.now _ _ hwarned
  refine failsOr_bind hmade fun fixtures hfixtures => ?_
  refine .inr ⟨fixtures, _, ?_, hmade.kept, hmade.printed, rfl⟩
  obtain ⟨names, hnames, hexprs⟩ := Generator.exprs_of_all _ hfixtures
  refine ⟨catalog, names, ?_, hnames, hexprs⟩
  refine Act.fst_bind_eq_ok_iff.2 ⟨_, hlisted.symm.trans hcatalog, ?_⟩
  exact Act.fst_bind_eq_ok_iff.2 ⟨fixtures, hsame.eq.symm.trans hfixtures, rfl⟩

/-- A run that makes fixtures ends in one of four ways. It fails and has written nothing. Or the
document of all selected rules, and nothing else, is printed; or it is saved in the file that is
named, and nothing is printed. Only if the message on this file is at fault does a run fail with its
file in place. -/
theorem start_ends {arguments : List String} {invocation : Invocation}
    (hread : Invocation.read arguments = .ok invocation)
    (hcommand : invocation.command = .generate)
    (hconfig : run.configuration invocation session.files = .ok config) :
    run.Ending config invocation.output? session ((run.start arguments).run session) := by
  have hstart : run.start arguments = guarded true (run.perform invocation) := by
    rw [start, hread]
  -- up to the delivery nothing is written, be it that the run fails or that it gets there
  have hperform : FailsOr session (fun result => ∃ fixtures next,
      run.Makes config session fixtures ∧ next.files = session.files ∧
        next.printed = session.printed ∧
        result = deliver config run.width invocation.output? fixtures next)
      (run.perform invocation session) := by
    rw [perform_eq]
    have hconfigured := run.quiet_configure invocation session
    refine failsOr_bind (t := (run.configure invocation session).2)
      ⟨hconfigured.files, rfl, rfl, hconfigured.printed⟩ fun found hfound => ?_
    have hfound := run.configuration_of_configure hfound
    obtain rfl : found = config := Except.ok.inj (hfound.symm.trans hconfig)
    rw [hcommand]
    exact run.generate_apply hconfigured
  rw [hstart]
  obtain ⟨fault, next, hfault, hfiles, hprinted⟩ |
    ⟨fixtures, next, hmade, hfiles, hprinted, hrun⟩ := hperform
  · rw [guarded_of_error hfault]
    have hafter := next.sameOutside_afterFault fault
    refine .failed fault.exitCode_ne_zero (hafter.printed.trans hprinted) ?_
    rw [hafter.files, hfiles]
  · rw [guarded_congr hrun]
    exact run.deliver_ends hmade hfiles hprinted

end CommandLine.Run

/-! ### Two runs against a script -/

/-- A backend that answers request after request with the documents of a script. -/
def scripted : Transport (List (List Char)) := fun _ script =>
  match script with
  | [] => (.failed "no answer", [])
  | document :: rest => (.answered ⟨200, Text.Utf8.encode document⟩, rest)

/-- A run against a script, eleven minutes after the epoch. -/
def scriptedRun : CommandLine.Run (List (List Char)) where
  transport := scripted
  environment := []
  now := ⟨660000000⟩

/-- Before a run against a script, without any files. -/
def awaiting (script : List (List Char)) : Session (List (List Char)) where
  files := .empty
  backend := script

/-- The rules of a backend that has one. -/
def oneRule : List Char :=
  success ("\x7b\"groups\":[\x7b\"name\":\"g\",\"rules\":".toList ++
    "[\x7b\"name\":\"job:up\",\"query\":\"sum(up)\",".toList ++
    "\"type\":\"recording\"\x7d]\x7d]\x7d".toList)

/-- The rules of a backend that has none. -/
def noRules : List Char := success "\x7b\"groups\":[]\x7d".toList

/-- A result with one series. -/
def seriesOf (name values : String) : List Char :=
  success ("\x7b\"resultType\":\"matrix\",\"result\":".toList ++
    "[\x7b\"metric\":\x7b\"__name__\":\"".toList ++ name.toList ++ "\"\x7d,\"values\":[".toList ++
    values.toList ++ "]\x7d]\x7d".toList)

/-- The rule, its recorded value and the history of its metric. -/
def answersOnOneRule : List (List Char) :=
  [oneRule, seriesOf "job:up" "[600,\"2\"]", seriesOf "up" "[300,\"1\"],[600,\"2\"]"]

/-- A run that writes to a file below a directory that is not there yet. -/
theorem start_ends_oneRule :
    let session := awaiting answersOnOneRule
    let result := (scriptedRun.start
      ["generate", "-url", "http://p:9090", "-o", "out/rules.yml"]).run session
    scriptedRun.Ending plainClient.config (some "out/rules.yml") session result ∧
      result.1 = 0 ∧ result.2.printed = "" ∧
      (result.2.files.contents.get? ["out", "rules.yml"]).isSome := by
  have hread : CommandLine.Invocation.read
      ["generate", "-url", "http://p:9090", "-o", "out/rules.yml"] =
        .ok ⟨.generate, [⟨.url, some "http://p:9090"⟩, ⟨.output, some "out/rules.yml"⟩]⟩ := by
    decide +kernel
  exact ⟨scriptedRun.start_ends hread rfl (by decide +kernel), by decide +kernel⟩

/-- Runs that name files whose paths read as markup that is at fault: a closing tag that nothing
opens, a handler whose parameters open a bracket, and a colour without a number. The runs fail and
print nothing, but the files are written. -/
theorem start_unannounced :
    let session := awaiting [noRules]
    let document := Text.Utf8.encode "rule_files: []\nevaluation_interval: 1m\ntests: []\n".toList
    ∀ entry ∈ [("[/x]", ["[", "x]"]), ("[@a=(]x[/]", ["[@a=(]x[", "]"]),
        ("[rgb(1,,2)]x", ["[rgb(1,,2)]x"])],
      let result :=
        (scriptedRun.start ["generate", "-url", "http://p:9090", "-o", entry.1]).run session
      result.1 = 2 ∧ result.2.printed = "" ∧ session.files.contents.get? entry.2 = none ∧
        result.2.files.contents.get? entry.2 = some document := by
  decide +kernel

end RuleFixtures
