import RuleFixtures.Fixtures.Generator
import RuleFixtures.Proofs.Gateway.Exchange
import RuleFixtures.Proofs.PromQL.Dependencies

/-!
The metrics that are queried for a rule.

* `Generator.definitionMetrics` are the scraped metrics of a definition in ascending order,
  `Generator.ruleMetrics` those of all definitions of a rule in the order of their first mention.
* `Generator.runs_dependencyQueries`: they are found without a call of the gateway.
-/

namespace RuleFixtures

namespace PromQL

variable [Language]

/-- The metric names in a query. Only a text that is an expression is a query. -/
def mentioned (query : Json) : Except Fault (List String) :=
  match query with
  | .text text =>
    match Language.parse text with
    | .ok e => .ok e.mentions
    | .error reason => .error (.failure (.unreadableExpression text reason))
  | value => .error (.shape (.notQuery value.typeName))

variable {σ : Type} [Log.Journal σ] (gateway : Gateway σ)

/-- Reading a query makes no call and finds the names in it that are kept. -/
lemma runs_extract (keep : String → Bool) (query : Json) (s : σ) :
    ∃ result final,
      Act.Runs gateway (extract keep query) (extract keep query) s [] result final ∧
      result.map DependencySet.metricNames =
        (mentioned query).map fun names => sortTexts (names.filter keep).eraseDups := by
  cases query with
  | text text =>
    cases hparse : Language.parse text with
    | error reason =>
      have hquery :
          DependencySet.ofQuery keep text = .error (.unreadableExpression text reason) := by
        simp [DependencySet.ofQuery, DependencySet.ofQueryM, hparse]
      refine ⟨.error (.failure (.unreadableExpression text reason)), s,
        .bind_silent (.ofExcept rfl s) ?_, ?_⟩
      · simp only [hquery]
        exact .fail _ s
      · simp only [mentioned, hparse]
        rfl
    | ok e =>
      have hquery : DependencySet.ofQuery keep text = .ok (DependencySet.ofExpr keep e) := by
        simp [DependencySet.ofQuery, DependencySet.ofQueryM, hparse, DependencySet.ofExpr]
      have hnames : (Except.ok (DependencySet.ofExpr keep e)).map DependencySet.metricNames =
          (mentioned (.text text)).map fun names => sortTexts (names.filter keep).eraseDups := by
        simp only [mentioned, hparse, Except.map, DependencySet.metricNames,
          DependencySet.keys_ofExpr]
      -- selectors without a name are logged, which makes no call either
      cases hunnamed : (DependencySet.ofExpr keep e).unnamed.isEmpty with
      | true =>
        refine ⟨_, s, .bind_silent (.ofExcept rfl s) ?_, hnames⟩
        simp only [hquery, hunnamed]
        exact .pure _ s
      | false =>
        refine ⟨_,
          Log.Journal.record (.unnamedSelectors text (DependencySet.ofExpr keep e).unnamed) s,
          .bind_silent (.ofExcept rfl s) ?_, hnames⟩
        simp only [hquery, hunnamed]
        exact .bind_silent (.log _ s) (.pure _ _)
  | _ => exact ⟨_, s, .bind_error (.ofExcept rfl s), rfl⟩

end PromQL

namespace Generator

variable [PromQL.Language] {σ : Type} [Log.Journal σ] (g : Generator)

/-- The scraped metrics in the query of a definition, each once, in ascending order. -/
def definitionMetrics (definition : RuleDefinition) : Except Fault (List String) :=
  (PromQL.mentioned definition.query).map fun names =>
    PromQL.sortTexts (names.filter g.catalog.isScraped).eraseDups

/-- The scraped metrics of a recording rule, each once: those of its definitions one after the
other. The first definition that does not read is the fault. -/
def ruleMetrics (name : Json) : Except Fault (List String) :=
  (((g.catalog.recording.get? name).getD []).mapM g.definitionMetrics).map fun metrics =>
    metrics.flatten.eraseDups

variable (gateway : Gateway σ)

/-- The metrics of a definition come before those of the others. -/
lemma mapM_definitionMetrics_cons {definition : RuleDefinition} {names : List String}
    (h : g.definitionMetrics definition = .ok names) (rest : List RuleDefinition)
    (queries : List String) :
    (((definition :: rest).mapM g.definitionMetrics).map fun metrics =>
        metrics.flatten.foldl PromQL.addDistinct queries) =
      (rest.mapM g.definitionMetrics).map fun metrics =>
        metrics.flatten.foldl PromQL.addDistinct (names.foldl PromQL.addDistinct queries) := by
  rw [List.mapM_cons, h]
  cases hrest : rest.mapM g.definitionMetrics with
  | error fault => rfl
  | ok metrics =>
    simp only [bind, Except.bind, pure, Except.pure, Except.map, List.flatten_cons,
      List.foldl_append]

/-- Going through definitions makes no call and adds their metrics. -/
lemma runs_addQueries (name : Json) (definitions : List RuleDefinition) (queries : List String)
    (s : σ) :
    ∃ final,
      Act.Runs gateway (g.addQueries name queries definitions)
        (g.addQueries name queries definitions) s []
        ((definitions.mapM g.definitionMetrics).map fun metrics =>
          metrics.flatten.foldl PromQL.addDistinct queries) final := by
  induction definitions generalizing queries s with
  | nil => exact ⟨s, .pure queries s⟩
  | cons definition rest ih =>
    obtain ⟨result, middle, hextract, hmetrics⟩ :=
      PromQL.runs_extract gateway g.catalog.isScraped definition.query s
    cases result with
    | error fault =>
      have hdefinition : g.definitionMetrics definition = .error fault := hmetrics.symm
      rw [List.mapM_cons, hdefinition]
      exact ⟨middle, .bind_error hextract⟩
    | ok deps =>
      have hdefinition : g.definitionMetrics definition = .ok deps.metricNames := hmetrics.symm
      rw [g.mapM_definitionMetrics_cons hdefinition]
      cases hunnamed : deps.unnamed.isEmpty with
      | true =>
        obtain ⟨final, hrest⟩ := ih (deps.metricNames.foldl PromQL.addDistinct queries) middle
        refine ⟨final, .bind_silent hextract ?_⟩
        simp only [hunnamed]
        exact hrest
      | false =>
        obtain ⟨final, hrest⟩ := ih (deps.metricNames.foldl PromQL.addDistinct queries)
          (Log.Journal.record (.unnamedSelectorsSkipped name deps.unnamed) middle)
        refine ⟨final, .bind_silent hextract ?_⟩
        simp only [hunnamed]
        exact .bind_silent (.log _ middle) hrest

/-- The metrics of a rule are found without a call. -/
theorem runs_dependencyQueries (name : Json) (s : σ) :
    ∃ final,
      Act.Runs gateway (g.dependencyQueries name) (g.dependencyQueries name) s []
        (g.ruleMetrics name) final := by
  obtain ⟨final, hruns⟩ :=
    g.runs_addQueries gateway name ((g.catalog.recording.get? name).getD []) [] s
  have hfold (texts : List String) : texts.foldl PromQL.addDistinct [] = texts.eraseDups :=
    PromQL.foldl_addDistinct [] texts
  simp only [hfold] at hruns
  exact ⟨final, hruns⟩

/-- The metrics of a rule are found without a call, so any gateway will do. -/
lemma dependencyQueries_apply (name : Json) (s : σ) :
    (g.dependencyQueries name s).1 = g.ruleMetrics name := by
  let refusing : Gateway σ :=
    ⟨Act.fail .interrupted, fun _ _ => Act.fail .interrupted, fun _ _ _ _ => Act.fail .interrupted⟩
  obtain ⟨final, hruns⟩ := g.runs_dependencyQueries refusing name s
  rw [hruns.plain]

end Generator

end RuleFixtures
