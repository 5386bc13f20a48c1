import RuleFixtures.Proofs.Fixtures.InputRows
import RuleFixtures.Proofs.Fixtures.Metrics
import RuleFixtures.Proofs.Fixtures.OwnValue

/-!
The calls of a run that makes fixtures.

* `Generator.RuleRun` describes the calls for one rule and their result: the definitions are read,
  the recorded values are asked for, and then every metric over the window that ends at the
  alignment.
* `Generator.Run` describes the calls for several rules, up to the first fault.
* `Generator.runs_rule` and `Generator.runs_rules` are the runs of the program.
* `Generator.run_all`: a run makes these calls for the selected names in their order.
* `run_all_tenMinutes` is the run of a rule with one metric.
-/

namespace RuleFixtures

namespace Generator

/-! ### The calls of a run -/

variable [PromQL.Language]

/-- The calls for a rule, with its fixture or the fault that ended them. -/
inductive RuleRun (g : Generator) (name : Json) (now : Instant) :
    List Exchange → Except Fault Fixture → Prop where
  /-- A definition does not read, and nothing is asked. -/
  | unreadable {fault : Fault} (hmetrics : g.ruleMetrics name = .error fault) :
    RuleRun g name now [] (.error fault)
  /-- There are no recorded values. -/
  | unfound {metrics : List String} {own : List Exchange} {fault : Fault}
    (hmetrics : g.ruleMetrics name = .ok metrics)
    (hown : OwnValueRun g name now own (.error fault)) :
    RuleRun g name now own (.error fault)
  /-- The window would start before the calendar. -/
  | beforeCalendar {metrics : List String} {own : List Exchange} {expected : List ExpectedSample}
    {alignment : Instant} (hmetrics : g.ruleMetrics name = .ok metrics)
    (hown : OwnValueRun g name now own (.ok (expected, alignment)))
    (hstart : ¬ (alignment.minus g.lookback).isRepresentable) :
    RuleRun g name now own (.error (.range .date))
  /-- A metric is not answered. -/
  | windowFault {metrics : List String} {own calls : List Exchange}
    {expected : List ExpectedSample} {alignment : Instant} {fault : Fault}
    (hmetrics : g.ruleMetrics name = .ok metrics)
    (hown : OwnValueRun g name now own (.ok (expected, alignment)))
    (hstart : (alignment.minus g.lookback).isRepresentable)
    (hwindow : Window (alignment.minus g.lookback) alignment g.step metrics calls
      (.error fault : Except Fault Accumulator)) :
    RuleRun g name now (own ++ calls) (.error fault)
  /-- All metrics are answered, but there is no number of steps without a length. -/
  | zeroStep {metrics : List String} {own calls : List Exchange}
    {expected : List ExpectedSample} {alignment : Instant} {history : Accumulator}
    (hmetrics : g.ruleMetrics name = .ok metrics)
    (hown : OwnValueRun g name now own (.ok (expected, alignment)))
    (hstart : (alignment.minus g.lookback).isRepresentable)
    (hwindow : Window (alignment.minus g.lookback) alignment g.step metrics calls (.ok history))
    (hstep : g.step.micros = 0) :
    RuleRun g name now (own ++ calls) (.error (.range .divisionByZero))
  /-- All metrics are answered, and the fixture has the rows of what was collected. -/
  | made {metrics : List String} {own calls : List Exchange}
    {expected : List ExpectedSample} {alignment : Instant} {history : Accumulator}
    {rows : List InputSeries} (hmetrics : g.ruleMetrics name = .ok metrics)
    (hown : OwnValueRun g name now own (.ok (expected, alignment)))
    (hstart : (alignment.minus g.lookback).isRepresentable)
    (hwindow : Window (alignment.minus g.lookback) alignment g.step metrics calls (.ok history))
    (hcollected : Collected .empty (calls.flatMap Exchange.streams) history)
    (hrows : g.inputRows history alignment = .ok rows) :
    RuleRun g name now (own ++ calls) (.ok ⟨g.interval, rows, ⟨name, g.lookback, expected⟩⟩)

/-- The calls for several rules. The first fault ends them, and is the result. -/
inductive Run (g : Generator) (now : Instant) :
    List Json → List Exchange → Except Fault (List Fixture) → Prop where
  | done : Run g now [] [] (.ok [])
  | stops {name : Json} {calls : List Exchange} {fault : Fault} (rest : List Json)
    (h : RuleRun g name now calls (.error fault)) : Run g now (name :: rest) calls (.error fault)
  | goesOn {name : Json} {first second : List Exchange} {fixture : Fixture} {rest : List Json}
    {result : Except Fault (List Fixture)} (h : RuleRun g name now first (.ok fixture))
    (hrest : Run g now rest second result) :
    Run g now (name :: rest) (first ++ second) (result.map (fixture :: ·))

/-! ### The run of a rule -/

variable {σ : Type} [Log.Journal σ] (g : Generator) (gateway : Gateway σ)

/-- Making the rows ends with a fixture, unless steps have no length. -/
lemma runRule_of_history {name : Json} {now : Instant} {metrics : List String}
    {own calls : List Exchange} {expected : List ExpectedSample} {alignment : Instant}
    {history : Accumulator} (hmetrics : g.ruleMetrics name = .ok metrics)
    (hown : OwnValueRun g name now own (.ok (expected, alignment)))
    (hstart : (alignment.minus g.lookback).isRepresentable)
    (hwindow : Window (alignment.minus g.lookback) alignment g.step metrics calls (.ok history))
    (hcollected : Collected .empty (calls.flatMap Exchange.streams) history)
    (htexts : ∀ call ∈ calls, call.TextLabelled) :
    RuleRun g name now (own ++ calls)
      ((g.inputRows history alignment).map fun rows =>
        ⟨g.interval, rows, ⟨name, g.lookback, expected⟩⟩) := by
  by_cases hstep : g.step.micros = 0
  · rw [g.inputRows_eq_error hstep hstart]
    exact .zeroStep hmetrics hown hstart hwindow hstep
  · obtain ⟨texts, hkeys⟩ := hcollected.exists_texts (Exchange.areTexts_of_mem_streams htexts)
    obtain ⟨slots, hslots⟩ := g.exists_slots hstep
    have hrows := g.inputRows_eq hstep hstart hslots hkeys
    rw [hrows]
    exact .made hmetrics hown hstart hwindow hcollected hrows

/-- A rule makes the calls that are described. -/
theorem runs_rule (name : Json) (now : Instant) (s : σ) :
    ∃ calls result final,
      Act.Runs gateway (g.rule gateway.recorded name now) (g.rule gateway name now) s calls result
        final ∧
      ((∀ call ∈ calls, call.TextLabelled) → RuleRun g name now calls result) := by
  -- the stages of a rule one after the other, each of which may end it: its metrics, its own value,
  -- the start of its window, the history
  obtain ⟨s₁, hqueries⟩ := g.runs_dependencyQueries gateway name s
  rcases hmetrics : g.ruleMetrics name with fault | metrics
  · rw [hmetrics] at hqueries
    exact ⟨_, _, _, hqueries.bind_error, fun _ => .unreadable hmetrics⟩
  rw [hmetrics] at hqueries
  obtain ⟨own, result, s₂, hvalue, hown⟩ := runs_ownValue g gateway name now s₁
  rcases result with fault | ⟨expected, alignment⟩
  · exact ⟨_, _, _, .bind_silent hqueries hvalue.bind_error,
      fun htexts => .unfound hmetrics (hown htexts)⟩
  by_cases hstart : (alignment.minus g.lookback).isRepresentable
  case neg =>
    have hhistory := g.runs_history_error gateway metrics hstart s₂
    exact ⟨_, _, _, .bind_silent hqueries (hvalue.bind_last hhistory.bind_error),
      fun htexts => .beforeCalendar hmetrics (hown htexts) hstart⟩
  obtain ⟨calls, result, s₃, hhistory, hwindow⟩ := g.runs_history gateway metrics hstart s₂
  rcases result with fault | history
  · refine ⟨_, _, _, .bind_silent hqueries (hvalue.bind hhistory.bind_error), fun htexts => ?_⟩
    rw [List.forall_mem_append] at htexts
    exact .windowFault hmetrics (hown htexts.1) hstart (hwindow htexts.2).1
  -- the rest of the rule makes no call
  have hrows : Act.Runs gateway _ _ _ [] _ _ := Act.Runs.map
    (fun rows => (⟨g.interval, rows, ⟨name, g.lookback, expected⟩⟩ : Fixture))
    (.ofExcept (rfl : g.inputRows history alignment = _)
      (Log.Journal.record (.fixtureGenerated name metrics.length history.size expected.length
        alignment) s₃))
  refine ⟨_, _, _, .bind_silent hqueries (hvalue.bind (hhistory.bind_last
    (.bind_silent (.log _ s₃) hrows))), fun htexts => ?_⟩
  rw [List.forall_mem_append] at htexts
  obtain ⟨hcalls, hcollected⟩ := hwindow htexts.2
  exact g.runRule_of_history hmetrics (hown htexts.1) hstart hcalls (hcollected history rfl)
    htexts.2

/-! ### The run of several rules -/

/-- Several rules make the calls that are described. -/
theorem runs_rules (now : Instant) (names : List Json) (s : σ) :
    ∃ calls result final,
      Act.Runs gateway (g.rules gateway.recorded now names) (g.rules gateway now names) s calls
        result final ∧
      ((∀ call ∈ calls, call.TextLabelled) → Run g now names calls result) := by
  induction names generalizing s with
  | nil => exact ⟨[], .ok [], s, .pure [] s, fun _ => .done⟩
  | cons name rest ih =>
    obtain ⟨first, result, s₁, hrule, hspec⟩ := g.runs_rule gateway name now s
    rcases result with fault | fixture
    · exact ⟨_, _, _, hrule.bind_error, fun htexts => .stops rest (hspec htexts)⟩
    obtain ⟨second, result, final, hrules, hrest⟩ := ih s₁
    refine ⟨_, _, _, hrule.bind (hrules.map (fixture :: ·)), fun htexts => ?_⟩
    rw [List.forall_mem_append] at htexts
    exact .goesOn (hspec htexts.1) (hrest htexts.2)

/-- A run goes through the selected names in ascending order and makes the calls that are
described, whatever the gateway answers. -/
theorem run_all (select : Json → Bool) (now : Instant) (s : σ) :
    ∃ calls result final,
      Act.Runs gateway (g.all gateway.recorded select now) (g.all gateway select now) s calls
        result final ∧
      (∀ fault, RuleCatalog.sortedNames g.catalog.recording = .error fault →
        calls = [] ∧ result = .error (.shape fault)) ∧
      (∀ names, RuleCatalog.sortedNames g.catalog.recording = .ok names →
        (∀ call ∈ calls, call.TextLabelled) → Run g now (names.filter select) calls result) ∧
      ∀ texts : List String, g.catalog.recording.keys = texts.map .text →
        ∃ names : List String,
          RuleCatalog.sortedNames g.catalog.recording = .ok (names.map .text) ∧
          names.Perm texts ∧ names.Pairwise (· < ·) := by
  -- names that are texts can be sorted, so only others are at fault
  have hnames (texts : List String) (htexts : g.catalog.recording.keys = texts.map .text) :
      ∃ names : List String,
        RuleCatalog.sortedNames g.catalog.recording = .ok (names.map .text) ∧
        names.Perm texts ∧ names.Pairwise (· < ·) := by
    have hnodup : g.catalog.recording.keys.Nodup := g.catalog.recording.nodup
    rw [htexts] at hnodup
    refine ⟨texts.mergeSort fun a b => decide (a ≤ b), ?_, List.mergeSort_perm _ _,
      pairwise_lt_mergeSort hnodup.of_map⟩
    rw [RuleCatalog.sortedNames, htexts, Json.sortBy_text]
  rcases hsorted : RuleCatalog.sortedNames g.catalog.recording with fault | names
  · have hfault : (RuleCatalog.sortedNames g.catalog.recording).mapError Fault.shape =
        .error (.shape fault) := by rw [hsorted]; rfl
    refine ⟨[], _, s, .bind_error (.ofExcept hfault s), ?_, ?_, hsorted ▸ hnames⟩
    · rintro _ ⟨⟩
      exact ⟨rfl, rfl⟩
    · rintro _ ⟨⟩
  · have hok : (RuleCatalog.sortedNames g.catalog.recording).mapError Fault.shape = .ok names := by
      rw [hsorted]; rfl
    obtain ⟨calls, result, final, hruns, hrun⟩ :=
      g.runs_rules gateway now (names.filter select) s
    refine ⟨calls, result, final, .bind_silent (.ofExcept hok s) hruns, ?_, ?_, hsorted ▸ hnames⟩
    · rintro _ ⟨⟩
    · rintro _ ⟨⟩ htexts
      exact hrun htexts

end Generator

/-! ### The recording of ten minutes -/

/-- A rule that is looked back on for ten minutes at a step, for fixtures with an interval of one
minute. -/
def tenMinutes (step : Duration) : Generator where
  catalog := ⟨.empty, ⟨[(.text "job:up",
    [⟨.text "job:up", .text "up", .recording, .empty, .text "g"⟩])], by decide⟩⟩
  lookback := .ofMinutes 10
  step := step

/-- A backend whose series are recorded at both ends of the first ten minutes. -/
def upForTenMinutes : Gateway (List Log.Event) where
  ruleGroups := pure []
  query _ _ := pure (.matrix [⟨.ofTexts namedUp, [⟨⟨600000000⟩, .ofInt 2⟩]⟩])
  queryRange _ _ _ _ := pure (.matrix
    [⟨.ofTexts namedUp, [⟨⟨0⟩, .ofInt 1⟩, ⟨⟨600000000⟩, .ofInt 2⟩]⟩])

/-- Its series have texts as labels. -/
lemma textLabelled_of_isAnswerOf_upForTenMinutes {call : Exchange}
    (h : call.IsAnswerOf upForTenMinutes) : call.TextLabelled := by
  intro stream hstream
  have hlabels : stream.labels = .ofTexts namedUp := by
    cases call with
    | listed answer => cases hstream
    | asked expr time answer =>
      obtain ⟨_, rfl⟩ := h
      rw [List.mem_singleton.1 hstream]
    | askedRange expr start finish step answer =>
      obtain ⟨_, rfl⟩ := h
      rw [List.mem_singleton.1 hstream]
  exact ⟨namedUp, hlabels⟩

/-- A run of one rule makes two calls: the query for the rule itself, and that for its metric over
the ten minutes that end at the recorded value. -/
theorem run_all_tenMinutes :
    ∃ calls result final,
      Act.Runs upForTenMinutes
        ((tenMinutes (.ofMinutes 1)).all upForTenMinutes.recorded (fun _ => true) ⟨660000000⟩)
        ((tenMinutes (.ofMinutes 1)).all upForTenMinutes (fun _ => true) ⟨660000000⟩) [] calls
        result final ∧
      Generator.Run (tenMinutes (.ofMinutes 1)) ⟨660000000⟩ [.text "job:up"] calls result ∧
      calls =
        [.asked "job:up[10m]" ⟨660000000⟩
            (.ok (.matrix [⟨.ofTexts namedUp, [⟨⟨600000000⟩, .ofInt 2⟩]⟩])),
          .askedRange "up" ⟨0⟩ ⟨600000000⟩ (.ofMinutes 1)
            (.ok (.matrix
              [⟨.ofTexts namedUp, [⟨⟨0⟩, .ofInt 1⟩, ⟨⟨600000000⟩, .ofInt 2⟩]⟩]))] := by
  obtain ⟨calls, result, final, hruns, _, hrun, _⟩ :=
    (tenMinutes (.ofMinutes 1)).run_all upForTenMinutes (fun _ => true) ⟨660000000⟩ []
  have htexts : ∀ call ∈ calls, call.TextLabelled := fun call hcall =>
    textLabelled_of_isAnswerOf_upForTenMinutes (hruns.answers call hcall)
  have hcalls := congrArg (fun run => run.2.exchanges) (hruns.recorded [])
  refine ⟨calls, result, final, hruns, hrun [.text "job:up"] (by decide +kernel) htexts, ?_⟩
  exact hcalls.symm.trans (by decide +kernel)

end RuleFixtures
