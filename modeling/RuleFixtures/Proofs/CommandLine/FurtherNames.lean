import RuleFixtures.Proofs.CommandLine.Output
import RuleFixtures.Proofs.CommandLine.Selections

/-!
Two command lines of which the second one picks further names.

The names pick nothing: no rule has them, or they are those of alerting rules when fixtures are
made. What becomes of them is a warning each, in whose text markup is obeyed.

* `Invocation.AlikeButPicks`: two invocations differ in the names they pick only; so do their
  configurations, by `AlikeButPicks.config_eq`.
* `Run.perform_tells`: a run fails with nothing written unless all of its warnings can be shown.
* `Run.PicksMore.outcomesAgree`: if they can, the runs agree but for further warnings.
* `Run.start_picksMore`: the runs end alike, or one of them stops at a warning.
-/

namespace RuleFixtures.CommandLine

/-! ### Invocations -/

/-- Does the flag pick rules? -/
def Flag.picks : Flag → Bool
  | .recordingRule => true
  | .alertingRule => true
  | _ => false

namespace Invocation

/-- The rules that a flag picks. -/
def picked (invocation : Invocation) (flag : Flag) : RuleSelection :=
  .ofFlags (invocation.values flag)

/-- The flags that pick no rules. -/
def settled (invocation : Invocation) : List Assignment :=
  invocation.assignments.filter fun assignment => !assignment.flag.picks

/-- Two invocations of one command that differ in the rules they pick only. -/
structure AlikeButPicks (invocation other : Invocation) : Prop where
  command : other.command = invocation.command
  settled : other.settled = invocation.settled

namespace AlikeButPicks

variable {invocation other : Invocation} (h : invocation.AlikeButPicks other) (flag : Flag)
  (hflag : flag.picks = false)

include h hflag

/-- A flag that picks no rules is given alike. -/
lemma filter_assignments :
    (other.assignments.filter fun assignment => assignment.flag = flag) =
      invocation.assignments.filter fun assignment => assignment.flag = flag := by
  have hsettled (assignments : List Assignment) :
      (assignments.filter fun assignment => assignment.flag = flag) =
        (assignments.filter fun assignment => !assignment.flag.picks).filter
          fun assignment => assignment.flag = flag := by
    rw [List.filter_filter]
    refine List.filter_congr fun assignment _ => ?_
    by_cases hsame : assignment.flag = flag
    · simp [hsame, hflag]
    · simp [hsame]
  have hothers := h.settled
  rw [Invocation.settled, Invocation.settled] at hothers
  rw [hsettled, hothers, ← hsettled]

lemma value?_eq : other.value? flag = invocation.value? flag := by
  rw [value?, value?, ← List.head?_filter, ← List.head?_filter, List.filter_reverse,
    List.filter_reverse, h.filter_assignments flag hflag]

lemma values_eq : other.values flag = invocation.values flag := by
  rw [values, values, h.filter_assignments flag hflag]

lemma has_eq : other.has flag = invocation.has flag := by
  have hany (assignments : List Assignment) :
      (assignments.any fun assignment => assignment.flag = flag) =
        (assignments.filter fun assignment => assignment.flag = flag).any fun _ => true := by
    rw [List.any_filter]
    simp only [Bool.and_true]
  rw [has, has, hany, h.filter_assignments flag hflag, ← hany]

omit hflag

/-- The configurations differ in the rules that are picked only. -/
lemma config_eq (settings : Settings) :
    other.config settings =
      (invocation.config settings).picking (other.picked .recordingRule)
        (other.picked .alertingRule) := by
  rw [config, config, RunConfig.picking, h.value?_eq .url rfl, h.value?_eq .tokenFile rfl,
    h.value?_eq .ca rfl, h.has_eq .insecure rfl, h.values_eq .ruleFile rfl]
  rfl

lemma output?_eq : other.output? = invocation.output? := by
  rw [output?, output?, h.command]
  cases invocation.command with
  | inspect =>
    dsimp only
    rw [h.value?_eq .form rfl]
  | generate => exact h.value?_eq .output rfl

end AlikeButPicks

end Invocation

namespace Run

variable {β : Type} {s : Session β}

/-! ### Warnings that cannot be shown -/

/-- The warnings of a run, by the rules that are loaded. -/
def warningTexts (command : Command) (config : RunConfig) (catalog : RuleCatalog) : List String :=
  let missing := (config.recordingRules.missingFrom catalog.recording.keys).map
    (missingText "Recording")
  match command with
  | .inspect => missing ++ (config.alertingRules.missingFrom catalog.alerting.keys).map
      (missingText "Alerting")
  | .generate => (if config.alertingRules.selectsAll then []
      else [ignoringText config.alertingRules.names]) ++ missing

section Tells

variable [Platform] {width : ℕ}

lemma tells_of_tellMessage {text : String} {u : Unit}
    (h : (Session.tellMessage (Console.Message.warning width text) s).1 = .ok u) :
    Tells width text := by
  cases htold : Console.Message.warning width text with
  | ok told => exact ⟨told, htold⟩
  | error fault =>
    rw [htold] at h
    cases h

lemma tells_of_warnOfMissing {kind : String} {names : List String} {u : Unit}
    (h : (warnOfMissing width kind names s).1 = .ok u) :
    ∀ text ∈ names.map (missingText kind), Tells width text := by
  induction names generalizing s with
  | nil => exact fun _ htext => absurd htext List.not_mem_nil
  | cons name rest ih =>
    obtain ⟨_, hfirst, hrest⟩ := Act.fst_bind_eq_ok_iff.1 h
    rw [List.map_cons, List.forall_mem_cons]
    exact ⟨tells_of_tellMessage hfirst, ih hrest⟩

lemma tells_of_warnOfIgnored {selection : RuleSelection} {u : Unit}
    (h : (warnOfIgnored width selection s).1 = .ok u) :
    ∀ text ∈ if selection.selectsAll then [] else [ignoringText selection.names],
      Tells width text := by
  rw [warnOfIgnored] at h
  cases hall : selection.selectsAll with
  | true => simp
  | false =>
    rw [hall] at h
    simpa using tells_of_tellMessage h

end Tells

variable [Platform] (run : Run β)

/-- The rules that are loaded for an invocation. -/
def Loads (session : Session β) (invocation : Invocation) (config : RunConfig)
    (catalog : RuleCatalog) : Prop :=
  run.configuration invocation session.files = .ok config ∧
    ∃ gateway, (run.listing config session).1 = .ok (gateway, catalog)

/-- A run fails with nothing written, or all its warnings can be shown. -/
lemma perform_tells [PromQL.Language] (session : Session β) (invocation : Invocation) :
    FailsOr session (fun _ => ∃ config catalog, run.Loads session invocation config catalog ∧
      ∀ text ∈ warningTexts invocation.command config catalog, Tells run.width text)
      (run.perform invocation session) := by
  have hstart : Unwritten session session session := ⟨rfl, rfl, rfl, rfl⟩
  rw [perform_eq]
  have hconfigured := hstart.of_sameOutside (run.quiet_configure invocation session)
  refine failsOr_bind hconfigured fun config hconfig => ?_
  have hconfig := run.configuration_of_configure hconfig
  -- each step so far writes nothing, so the run may fail there; a warning that is told can be shown
  cases hcommand : invocation.command with
  | inspect =>
    dsimp only
    rw [inspect_eq]
    obtain ⟨hlisted, hlisting⟩ := run.listing_of_unwritten config hconfigured
    refine failsOr_bind hlisting fun ⟨gateway, catalog⟩ hcatalog => ?_
    have hmissing := hlisting.of_sameOutside
      (quiet_warnOfMissing run.width "Recording"
        (config.recordingRules.missingFrom catalog.recording.keys) _)
    refine failsOr_bind hmissing fun _ hrecording => ?_
    have hmissing' := hmissing.of_sameOutside
      (quiet_warnOfMissing run.width "Alerting"
        (config.alertingRules.missingFrom catalog.alerting.keys) _)
    refine failsOr_bind hmissing' fun _ halerting => ?_
    refine .inr ⟨config, catalog, ⟨hconfig, gateway, hlisted.symm.trans hcatalog⟩, ?_⟩
    exact List.forall_mem_append.2
      ⟨tells_of_warnOfMissing hrecording, tells_of_warnOfMissing halerting⟩
  | generate =>
    dsimp only
    rw [generate_eq]
    have hwarned := hconfigured.of_sameOutside
      (quiet_warnOfIgnored run.width config.alertingRules _)
    refine failsOr_bind hwarned fun _ hignored => ?_
    obtain ⟨hlisted, hlisting⟩ := run.listing_of_unwritten config hwarned
    refine failsOr_bind hlisting fun ⟨gateway, catalog⟩ hcatalog => ?_
    have hmissing := hlisting.of_sameOutside
      (quiet_warnOfMissing run.width "Recording"
        (config.recordingRules.missingFrom catalog.recording.keys) _)
    refine failsOr_bind hmissing fun _ hrecording => ?_
    refine .inr ⟨config, catalog, ⟨hconfig, gateway, hlisted.symm.trans hcatalog⟩, ?_⟩
    exact List.forall_mem_append.2
      ⟨tells_of_warnOfIgnored hignored, tells_of_warnOfMissing hrecording⟩

/-! ### Two runs -/

/-- Both runs have one configuration, but for the rules that are picked. -/
lemma agree_configure {width : ℕ} {invocation other : Invocation}
    (h : invocation.AlikeButPicks other) :
    Act.Agree (Session.Widened width) Eq (fun config next =>
        next = config.picking (other.picked .recordingRule) (other.picked .alertingRule))
      (run.configure invocation) (run.configure other) := by
  have hverbose : other.verbose = invocation.verbose := h.has_eq .verbose rfl
  refine (Session.agree_currentFiles Session.Widened.indistinct).bind fun files _ hsame => ?_
  subst hsame
  refine (Act.Agree.ofExcept (.refl (fun _ => rfl) _)).bind fun settings _ hsame => ?_
  subst hsame
  rw [hverbose, h.config_eq]
  refine (Act.Agree.ofExcept (.refl (fun _ => rfl) _)).bind fun threshold _ hsame => ?_
  subst hsame
  have hthreshold : Act.Agree (Session.Widened width) Eq Eq
      (Session.setThreshold threshold : Act (Session β) Unit) (Session.setThreshold threshold) :=
    fun s t h => ⟨.values rfl, h.files, h.backend, h.printed, rfl, h.notes⟩
  refine hthreshold.bind fun _ _ _ => ?_
  refine (Act.Agree.ofExcept (RunConfig.agree_validate _ _ _)).bind fun config _ hnext => ?_
  subst hnext
  rw [h.command]
  exact (Act.Agree.log (Session.Widened.indistinct.record _)).bind fun _ _ _ => .pure rfl

lemma picked_of_configuration {invocation : Invocation} {files : Files} {config : RunConfig}
    (h : run.configuration invocation files = .ok config) :
    config.recordingRules = invocation.picked .recordingRule ∧
      config.alertingRules = invocation.picked .alertingRule := by
  obtain ⟨settings, _, hvalid⟩ := bind_eq_ok_iff.1 h
  rw [RunConfig.eq_of_validate hvalid]
  exact ⟨rfl, rfl⟩

/-- The second invocation picks further names: of a report, names that no rule of their kind has; of
fixtures, names that no recording rule has, and any alerting rules. -/
structure PicksMore (session : Session β) (invocation other : Invocation)
    (recording alerting : List String) : Prop extends invocation.AlikeButPicks other where
  recording : ∀ config catalog, run.Loads session invocation config catalog →
    (invocation.picked .recordingRule).Grows (other.picked .recordingRule) recording
      catalog.recording.keys
  reported : invocation.command = .inspect → ∀ config catalog,
    run.Loads session invocation config catalog →
      (invocation.picked .alertingRule).Grows (other.picked .alertingRule) alerting
        catalog.alerting.keys
  ignored : invocation.command = .generate →
    Interleave (invocation.picked .alertingRule).names alerting (other.picked .alertingRule).names

/-- The warnings that further names add. -/
def addedTexts (command : Command) (recording alerting : List String) (picked : RuleSelection) :
    List String :=
  recording.map (missingText "Recording") ++
    match command with
    | .inspect => alerting.map (missingText "Alerting")
    | .generate => if alerting = [] then [] else [ignoringText picked.names]

/-- The warning in whose place a longer one comes. -/
def replacedTexts (command : Command) (alerting : List String) (picked : RuleSelection) :
    List String :=
  match command with
  | .inspect => []
  | .generate => if alerting = [] ∨ picked.names = [] then [] else [ignoringText picked.names]

section PicksMore

variable {run} {session : Session β} {invocation other : Invocation}
  {recording alerting : List String}
  (h : run.PicksMore session invocation other recording alerting)

include h

/-- If all warnings can be shown, the runs agree but for them. -/
lemma PicksMore.outcomesAgree [PromQL.Language]
    (hadded : ∀ text ∈ addedTexts invocation.command recording alerting
      (other.picked .alertingRule), Tells run.width text)
    (hreplaced : ∀ text ∈ replacedTexts invocation.command alerting
      (invocation.picked .alertingRule), Tells run.width text) :
    OutcomesAgree (Session.Widened run.width) Eq Eq (run.perform invocation session)
      (run.perform other session) := by
  have hquiet := run.quiet_configure invocation session
  rw [perform_eq, perform_eq]
  obtain ⟨hresult, hstates⟩ := run.agree_configure h.toAlikeButPicks session session (.refl session)
  refine OutcomesAgree.bind ⟨hresult, hstates⟩ fun config _ hconfig hnext => ?_
  subst hnext
  have hconfig := run.configuration_of_configure hconfig
  obtain ⟨hrecording, halerting⟩ := run.picked_of_configuration hconfig
  -- the picks differ, but not the rules that both runs load
  have hloads (gateway : Gateway (Session β)) (catalog : RuleCatalog)
      (hlisted : (run.listing config (run.configure invocation session).2).1 =
        .ok (gateway, catalog)) : run.Loads session invocation config catalog :=
    ⟨hconfig, gateway, (run.fst_listing_picking config hquiet config.recordingRules
      config.alertingRules).symm.trans hlisted⟩
  rw [h.command, h.output?_eq]
  cases hcommand : invocation.command with
  | inspect =>
    rw [hcommand, addedTexts, List.forall_mem_append, List.forall_mem_map,
      List.forall_mem_map] at hadded
    refine run.outcomesAgree_inspect _ hstates (fun gateway catalog hlisted => ?_)
      (fun gateway catalog hlisted => ?_) hadded.1 hadded.2
    · rw [hrecording]
      exact h.recording config catalog (hloads gateway catalog hlisted)
    · rw [halerting]
      exact h.reported hcommand config catalog (hloads gateway catalog hlisted)
  | generate =>
    rw [hcommand, addedTexts, List.forall_mem_append, List.forall_mem_map] at hadded
    rw [hcommand, replacedTexts] at hreplaced
    -- alerting rules are ignored with one warning, whatever they are
    have hignored := h.ignored hcommand
    rw [← halerting] at hignored hreplaced
    refine run.outcomesAgree_generate _ hstates (fun gateway catalog hlisted => ?_) hadded.1
      hignored fun hmore => ⟨hadded.2 _ ?_, fun hsome => hreplaced _ ?_⟩
    · rw [hrecording]
      exact h.recording config catalog (hloads gateway catalog hlisted)
    · rw [if_neg hmore]
      exact List.mem_singleton_self _
    · rw [if_neg (not_or.2 ⟨hmore, hsome⟩)]
      exact List.mem_singleton_self _

/-- The second run loads the same rules, if any. -/
lemma PicksMore.loads_of_loads {config : RunConfig} {catalog : RuleCatalog}
    (hloads : run.Loads session other config catalog) :
    ∃ first, run.Loads session invocation first catalog ∧
      config = first.picking (other.picked .recordingRule) (other.picked .alertingRule) := by
  obtain ⟨hconfig, gateway, hlisted⟩ := hloads
  obtain ⟨settings, hsettings, hvalid⟩ := bind_eq_ok_iff.1 hconfig
  have hagree := (invocation.config settings).agree_validate (other.picked .recordingRule)
    (other.picked .alertingRule)
  rw [← h.config_eq, hvalid] at hagree
  cases hfirst : (invocation.config settings).validate with
  | error fault =>
    rw [hfirst] at hagree
    cases hagree
  | ok first =>
    rw [hfirst] at hagree
    cases hagree with
    | values hnext =>
      subst hnext
      rw [run.fst_listing_picking first ⟨rfl, rfl, rfl⟩] at hlisted
      exact ⟨first, ⟨bind_eq_ok_iff.2 ⟨settings, hsettings, hfirst⟩, gateway, hlisted⟩, rfl⟩

/-- The second run tells the warnings that are added. -/
lemma PicksMore.mem_warningTexts {config : RunConfig} {catalog : RuleCatalog}
    (hloads : run.Loads session other config catalog) :
    ∀ text ∈ addedTexts invocation.command recording alerting (other.picked .alertingRule),
      text ∈ warningTexts other.command config catalog := by
  obtain ⟨first, hfirst, rfl⟩ := h.loads_of_loads hloads
  have hrecording : ∀ text ∈ recording.map (missingText "Recording"),
      text ∈ ((other.picked .recordingRule).missingFrom catalog.recording.keys).map
        (missingText "Recording") :=
    List.map_subset _ (h.recording first catalog hfirst).mem_missingFrom
  rw [h.command]
  cases hcommand : invocation.command with
  | inspect =>
    have halerting : ∀ text ∈ alerting.map (missingText "Alerting"),
        text ∈ ((other.picked .alertingRule).missingFrom catalog.alerting.keys).map
          (missingText "Alerting") :=
      List.map_subset _ (h.reported hcommand first catalog hfirst).mem_missingFrom
    exact List.append_subset.2 ⟨List.subset_append_of_subset_left _ hrecording,
      List.subset_append_of_subset_right _ halerting⟩
  | generate =>
    refine List.append_subset.2 ⟨List.subset_append_of_subset_right _ hrecording, ?_⟩
    refine fun text htext => List.mem_append_left _ ?_
    -- with a further name some alerting rules are given, and the warning names all of them
    by_cases hmore : alerting = []
    · rw [if_pos hmore] at htext
      cases htext
    · rw [if_neg hmore] at htext
      obtain ⟨name, hname⟩ := List.exists_mem_of_ne_nil _ hmore
      have hsome : (other.picked .alertingRule).selectsAll = false :=
        List.isEmpty_eq_false_iff.2
          (List.ne_nil_of_mem ((h.ignored hcommand).mem_iff.2 (.inr hname)))
      change text ∈ if (other.picked .alertingRule).selectsAll then [] else _
      rw [hsome]
      exact htext

omit h in
/-- The first run tells the warning in whose place a longer one comes. -/
lemma mem_warningTexts_of_replaced {config : RunConfig} {catalog : RuleCatalog}
    (hloads : run.Loads session invocation config catalog) :
    ∀ text ∈ replacedTexts invocation.command alerting (invocation.picked .alertingRule),
      text ∈ warningTexts invocation.command config catalog := by
  intro text htext
  cases hcommand : invocation.command with
  | inspect =>
    rw [hcommand] at htext
    cases htext
  | generate =>
    rw [hcommand, replacedTexts] at htext
    split at htext
    · cases htext
    · next hsome =>
      have hpicked := (run.picked_of_configuration hloads.1).2
      have hall : config.alertingRules.selectsAll = false := by
        rw [hpicked]
        exact List.isEmpty_eq_false_iff.2 (not_or.1 hsome).2
      refine List.mem_append_left _ ?_
      rw [hall, hpicked]
      exact htext

end PicksMore

/-- A run fails at a warning that cannot be shown. It prints nothing, and leaves the files. -/
structure Stops (width : ℕ) (session : Session β) (texts : List String) (result : ℕ × Session β) :
    Prop where
  untold : ∃ text ∈ texts, ∃ fault, Console.Message.warning width text = .error fault
  code : result.1 ≠ 0
  printed : result.2.printed = session.printed
  files : result.2.files = session.files

/-- A run stops at one of its warnings if they cannot all be shown. -/
lemma start_stops [PromQL.Language] {session : Session β} {arguments texts : List String}
    {invocation : Invocation}
    (hread : Invocation.read arguments = .ok invocation)
    (hmem : ∀ config catalog, run.Loads session invocation config catalog →
      ∀ text ∈ texts, text ∈ warningTexts invocation.command config catalog)
    (huntold : ¬ ∀ text ∈ texts, Tells run.width text) :
    Stops run.width session texts ((run.start arguments).run session) := by
  have hstart : run.start arguments = guarded true (run.perform invocation) := by
    rw [start, hread]
  obtain ⟨fault, next, hrun, hfiles, hprinted⟩ | ⟨config, catalog, hloads, htells⟩ :=
    run.perform_tells session invocation
  · rw [hstart, guarded_of_error hrun]
    have hafter := next.sameOutside_afterFault fault
    refine ⟨?_, fault.exitCode_ne_zero, hafter.printed.trans hprinted, hafter.files.trans hfiles⟩
    simp only [not_forall] at huntold
    obtain ⟨text, htext, hfault⟩ := huntold
    refine ⟨text, htext, ?_⟩
    cases hwarning : Console.Message.warning run.width text with
    | ok told => exact absurd ⟨told, hwarning⟩ hfault
    | error fault => exact ⟨fault, rfl⟩
  · exact absurd (fun text htext => htells text (hmem config catalog hloads text htext)) huntold

/-- Two runs end alike, but for further warnings on the error stream of the second one. -/
structure EndAlike (width : ℕ) (first second : ℕ × Session β) : Prop where
  code : second.1 = first.1
  session : Session.Widened width first.2 second.2

/-- Runs whose outcomes agree end alike. -/
lemma endAlike_guarded {width : ℕ} {m n : Act (Session β) ℕ} {s t : Session β}
    (h : OutcomesAgree (Session.Widened width) Eq Eq (m s) (n t)) :
    EndAlike width ((guarded true m).run s) ((guarded true n).run t) := by
  rcases hm : m s with ⟨first, s'⟩
  rcases hn : n t with ⟨second, t'⟩
  rw [hm, hn] at h
  obtain ⟨hresult, hstates⟩ := h
  cases hresult with
  | values hcode =>
    rw [guarded_of_ok hm, guarded_of_ok hn]
    exact ⟨hcode.symm, hstates⟩
  | faults hfault =>
    subst hfault
    rw [guarded_of_error hm, guarded_of_error hn]
    exact ⟨rfl, (Session.Widened.indistinct.record _ _ _ hstates).note (.refl _)⟩

/-- Further names that pick nothing add warnings to a run, and change neither its exit code nor what
it prints, writes or asks. Only if a warning is at fault the run stops there; the markup in names is
obeyed. This holds for the warnings that are added and, where the warning of alerting rules gets
longer, for the one that it replaces. -/
theorem start_picksMore [PromQL.Language] {session : Session β} {arguments others : List String}
    {invocation other : Invocation} {recording alerting : List String}
    (hread : Invocation.read arguments = .ok invocation)
    (hother : Invocation.read others = .ok other)
    (hmore : run.PicksMore session invocation other recording alerting) :
    EndAlike run.width ((run.start arguments).run session) ((run.start others).run session) ∨
      Stops run.width session
        (addedTexts invocation.command recording alerting (other.picked .alertingRule))
        ((run.start others).run session) ∨
      Stops run.width session
        (replacedTexts invocation.command alerting (invocation.picked .alertingRule))
        ((run.start arguments).run session) := by
  by_cases hadded : ∀ text ∈ addedTexts invocation.command recording alerting
      (other.picked .alertingRule), Tells run.width text
  · by_cases hreplaced : ∀ text ∈ replacedTexts invocation.command alerting
        (invocation.picked .alertingRule), Tells run.width text
    · left
      have hfirst : run.start arguments = guarded true (run.perform invocation) := by
        rw [start, hread]
      have hsecond : run.start others = guarded true (run.perform other) := by
        rw [start, hother]
      rw [hfirst, hsecond]
      exact endAlike_guarded (hmore.outcomesAgree hadded hreplaced)
    · exact .inr (.inr (run.start_stops hread
        (fun config catalog => mem_warningTexts_of_replaced) hreplaced))
  · exact .inr (.inl (run.start_stops hother
      (fun config catalog => hmore.mem_warningTexts) hadded))

end Run

/-! ### A name that has no rule, and one that is a tag -/

/-- A backend that answers every request with the same document, and keeps the requests. -/
def keeping (document : List Char) : Transport (List Request) := fun request sent =>
  (.answered ⟨200, Text.Utf8.encode document⟩, sent ++ [request])

/-- A run against a backend that has one rule. -/
def keepingRun : Run (List Request) where
  transport := keeping oneRule
  environment := []
  now := ⟨660000000⟩

/-- Before any request. -/
def unasked : Session (List Request) := { files := .empty, backend := [] }

/-- A report on recording rules. -/
def reportOn (names : List String) : List String :=
  ["inspect", "-url", "http://p:9090"] ++ names.flatMap fun name => ["-recording-rule", name]

/-- What is asked for by a report on recording rules. -/
def reportInvocation (names : List String) : Invocation where
  command := .inspect
  assignments := ⟨.url, some "http://p:9090"⟩ ::
    names.map fun name => ⟨.recordingRule, some name⟩

/-- How a report on recording rules ends. -/
def reportEnd (names : List String) : ℕ × Session (List Request) :=
  (keepingRun.start (reportOn names)).run unasked

lemma grows_oneRule {config : RunConfig} {catalog : RuleCatalog}
    (h : keepingRun.Loads unasked (reportInvocation ["job:up"]) config catalog) :
    ((reportInvocation ["job:up"]).picked .recordingRule).Grows
      ((reportInvocation ["job:up", "job:gone"]).picked .recordingRule) ["job:gone"]
      catalog.recording.keys := by
  have hnames : ((reportInvocation ["job:up"]).picked .recordingRule).names = ["job:up"] := by
    decide +kernel
  have hothers : ((reportInvocation ["job:up", "job:gone"]).picked .recordingRule).names =
      ["job:up", "job:gone"] := by
    decide +kernel
  -- the settings and the rules of the run are computed once, for whatever the run is said to load
  have hloaded : (keepingRun.configuration (reportInvocation ["job:up"]) .empty >>= fun config =>
      ((keepingRun.listing config unasked).1.map fun loaded => loaded.2.recording.keys)) =
        .ok [.text "job:up"] := by
    decide +kernel
  obtain ⟨hconfig, gateway, hlisted⟩ := h
  obtain ⟨found, hfound, hkeys⟩ := bind_eq_ok_iff.1 hloaded
  obtain rfl : config = found := Except.ok.inj (hconfig.symm.trans hfound)
  rw [hlisted] at hkeys
  refine ⟨?_, fun _ => ?_, ?_⟩
  · rw [hnames, hothers]
    exact .left _ (.right _ .nil)
  · rw [hnames]
    exact List.cons_ne_nil _ _
  · have hkeys : catalog.recording.keys = [.text "job:up"] := Except.ok.inj hkeys
    rw [hkeys]
    decide

lemma reportEnd_oneRule :
    (reportEnd ["job:up"]).1 = 0 ∧ (reportEnd ["job:up", "job:gone"]).1 = 0 ∧
      (reportEnd ["job:up"]).2.backend.length = 1 ∧ (reportEnd ["job:up"]).2.notes = [] ∧
      (reportEnd ["job:up", "job:gone"]).2.notes =
        [.told "⚠ Recording rule not found: job:gone\n"] := by
  decide +kernel

/-- A report on a rule, and one on the same rule and another that is gone: both send one request,
and a warning is told. -/
theorem start_picksMore_oneRule :
    Run.EndAlike 80 (reportEnd ["job:up"]) (reportEnd ["job:up", "job:gone"]) ∧
      (reportEnd ["job:up"]).1 = 0 ∧ (reportEnd ["job:up", "job:gone"]).1 = 0 ∧
      (reportEnd ["job:up"]).2.backend.length = 1 ∧ (reportEnd ["job:up"]).2.notes = [] ∧
      (reportEnd ["job:up", "job:gone"]).2.notes =
        [.told "⚠ Recording rule not found: job:gone\n"] := by
  have hread : Invocation.read (reportOn ["job:up"]) = .ok (reportInvocation ["job:up"]) := by
    decide +kernel
  have hother : Invocation.read (reportOn ["job:up", "job:gone"]) =
      .ok (reportInvocation ["job:up", "job:gone"]) := by
    decide +kernel
  have hmore : keepingRun.PicksMore unasked (reportInvocation ["job:up"])
      (reportInvocation ["job:up", "job:gone"]) ["job:gone"] [] := by
    refine ⟨⟨rfl, by decide⟩, fun _ _ => grows_oneRule, fun _ _ _ _ => ⟨.nil, ?_, ?_⟩, nofun⟩
    · exact fun h => absurd rfl h
    · exact fun _ h => absurd h List.not_mem_nil
  refine ⟨?_, reportEnd_oneRule⟩
  obtain h | h | h := keepingRun.start_picksMore hread hother hmore
  · exact h
  · exact absurd reportEnd_oneRule.2.1 h.code
  · exact absurd reportEnd_oneRule.1 h.code

/-- A name that is a closing tag keeps fixtures from being made, be it the name of an alerting rule
or that of a recording rule next to another. -/
theorem start_stops_at_tag :
    let result arguments := (scriptedRun.start
      (["generate", "-url", "http://p:9090"] ++ arguments)).run (awaiting [noRules])
    let document := "rule_files: []\nevaluation_interval: 1m\ntests: []\n"
    ((result []).1, (result []).2.printed) = (0, document) ∧
      ((result ["-alerting-rule", "[/x]"]).1, (result ["-alerting-rule", "[/x]"]).2.printed) =
        (2, "") ∧
      ((result ["-recording-rule", "a"]).1, (result ["-recording-rule", "a"]).2.printed) =
        (0, document) ∧
      ((result ["-recording-rule", "a,[/x]"]).1, (result ["-recording-rule", "a,[/x]"]).2.printed) =
        (2, "") := by
  decide +kernel

end RuleFixtures.CommandLine
