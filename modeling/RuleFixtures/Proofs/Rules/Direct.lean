import RuleFixtures.Proofs.Fixtures.Metrics
import RuleFixtures.Proofs.Rules.Classification

/-!
The direct metrics of a report and the metrics that are queried for a rule.

The report takes all metrics of a definition and then sorts out which are scraped; the generator
takes up the scraped ones only. Both list the same metrics, the report once for each definition.

* `RuleReport.direct_ofDefinitions`: the direct metrics of a report are those of its definitions.
* `Generator.queries_agree`: the queries of a rule are its direct metrics without repetitions.
-/

namespace RuleFixtures

section

variable [PromQL.Language]

/-- The names that a query mentions are those of its expression. -/
lemma PromQL.mentioned_eq (query : Json) :
    mentioned query = (expressionOf query).map Expr.mentions := by
  cases query with
  | text text =>
    simp only [mentioned, expressionOf, queryText, Except.bind]
    cases Language.parse text <;> rfl
  | _ => rfl

/-! ### The metrics of a report -/

variable {σ : Type} [Log.Journal σ] (g : Generator)

/-- The scraped metrics of a definition are the names of its expression that are scraped. -/
lemma Generator.definitionMetrics_eq (definition : RuleDefinition) :
    g.definitionMetrics definition =
      (PromQL.expressionOf definition.query).map (PromQL.Expr.sortedNames g.catalog.isScraped) := by
  rw [definitionMetrics, PromQL.mentioned_eq]
  cases PromQL.expressionOf definition.query <;> rfl

/-- The direct metrics of a report are the scraped metrics of its definitions, one definition after
the other. -/
lemma RuleReport.direct_ofDefinitions (name : Json) (definitions : List RuleDefinition) (s : σ) :
    (ofDefinitions g.catalog name definitions s).1.map RuleReport.direct =
      (definitions.mapM g.definitionMetrics).map List.flatten := by
  have hmetrics : definitions.mapM g.definitionMetrics =
      (definitions.mapM fun definition => PromQL.expressionOf definition.query).map
        (List.map (PromQL.Expr.sortedNames g.catalog.isScraped)) := by
    rw [← mapM_map_result]
    exact congrArg definitions.mapM (funext g.definitionMetrics_eq)
  rw [hmetrics, ofDefinitions, extendAll_apply g.catalog _ [] rfl]
  cases definitions.mapM fun definition => PromQL.expressionOf definition.query with
  | error fault => rfl
  | ok expressions => exact congrArg Except.ok List.flatMap_def

namespace Generator

/-- The metrics of definitions are mentioned in an expression, and scraped. -/
lemma exists_mention {definitions : List RuleDefinition} {metrics : List (List String)}
    (h : definitions.mapM g.definitionMetrics = .ok metrics) {metric : String}
    (hmetric : metric ∈ metrics.flatten) :
    (∃ definition ∈ definitions, ∃ e, PromQL.expressionOf definition.query = .ok e ∧
      metric ∈ e.mentions) ∧ g.catalog.isScraped metric = true := by
  obtain ⟨names, hnames, hmetric⟩ := List.mem_flatten.1 hmetric
  obtain ⟨definition, hmem, hdefinition⟩ := exists_of_forall₂ (mapM_eq_ok_iff.1 h).flip hnames
  rw [definitionMetrics_eq] at hdefinition
  obtain ⟨e, hread, rfl⟩ := (map_eq_ok_iff _).1 hdefinition
  obtain ⟨hmention, hscraped⟩ := PromQL.Expr.mem_sortedNames_iff.1 hmetric
  exact ⟨⟨definition, hmem, e, hread, hmention⟩, hscraped⟩

/-- The generator and the report agree on what a recording rule reads: both fail at the first of
its definitions that does not read, and else the queries are the direct metrics, each once. -/
theorem queries_agree {τ : Type} [Log.Journal τ] {name : Json} {definitions : List RuleDefinition}
    (hname : g.catalog.recording.get? name = some definitions) (s : σ) (t : τ) :
    (∀ fault, (g.dependencyQueries name s).1 = .error fault ↔
        (RuleReport.ofDefinitions g.catalog name definitions t).1 = .error fault) ∧
      (∀ fault, (g.dependencyQueries name s).1 = .error fault ↔
        ∃ before definition after, definitions = before ++ definition :: after ∧
          (∀ earlier ∈ before, ∃ names, PromQL.mentioned earlier.query = .ok names) ∧
          PromQL.mentioned definition.query = .error fault ∧
          ∀ text, definition.query = .text text →
            ∃ reason, PromQL.Language.parse text = .error reason ∧
              fault = .failure (.unreadableExpression text reason)) ∧
      ∀ report, (RuleReport.ofDefinitions g.catalog name definitions t).1 = .ok report →
        (g.dependencyQueries name s).1 = .ok report.direct.eraseDups ∧
          report.direct.eraseDups.Nodup ∧
          ∀ metric ∈ report.direct.eraseDups, .text metric ∉ g.catalog.recording.keys := by
  -- both sides go through the same definitions, so that a fault of one is a fault of the other
  have hqueries : (g.dependencyQueries name s).1 =
      (definitions.mapM g.definitionMetrics).map fun metrics => metrics.flatten.eraseDups := by
    rw [dependencyQueries_apply, ruleMetrics, hname, Option.getD_some]
  have hdirect := RuleReport.direct_ofDefinitions g name definitions t
  have hfails (fault : Fault) : (g.dependencyQueries name s).1 = .error fault ↔
      definitions.mapM g.definitionMetrics = .error fault := by
    rw [hqueries, map_eq_error_iff]
  refine ⟨fun fault => ?_, fun fault => ?_, fun report hreport => ?_⟩
  · rw [hfails, ← map_eq_error_iff (RuleReport.ofDefinitions g.catalog name definitions t).1,
      hdirect, map_eq_error_iff]
  -- the first fault of the list is that of the first definition that does not read
  · rw [hfails, mapM_eq_error_iff]
    refine exists_congr fun before => exists_congr fun definition => exists_congr fun after =>
      and_congr_right fun _ => and_congr ?_ ?_
    · refine forall₂_congr fun earlier _ => ?_
      rw [definitionMetrics]
      cases PromQL.mentioned earlier.query <;> simp [Except.map]
    · rw [definitionMetrics, map_eq_error_iff]
      refine (and_iff_left_of_imp fun hfault text htext => ?_).symm
      rw [htext] at hfault
      rw [PromQL.mentioned_eq, map_eq_error_iff] at hfault
      exact PromQL.expressionOf_text_eq_error hfault
  · rw [hreport] at hdirect
    cases hmetrics : definitions.mapM g.definitionMetrics with
    | error fault =>
      rw [hmetrics] at hdirect
      cases hdirect
    | ok metrics =>
      rw [hmetrics] at hdirect hqueries
      have hflatten : report.direct = metrics.flatten := Except.ok.inj hdirect
      rw [hflatten]
      refine ⟨hqueries, PromQL.nodup_eraseDups _, fun metric hmetric => ?_⟩
      rw [← g.catalog.isScraped_iff]
      exact (g.exists_mention hmetrics (List.mem_eraseDups.1 hmetric)).2

end Generator

end

/-! ### Three definitions -/

/-- A recording rule with three definitions: two read the same metric, and one reads what another
rule records. -/
def readsUpTwice : List RuleDefinition :=
  [⟨.text "job:up", .text "sum(up)", .recording, .empty, .text "g"⟩,
   ⟨.text "job:up", .text "job:down * 2", .recording, .empty, .text "g"⟩,
   ⟨.text "job:up", .text "rate(up[5m]) > up", .recording, .empty, .text "g"⟩]

/-- The two rules. -/
def upAndDown : Generator where
  catalog := ⟨.empty, ⟨[(.text "job:up", readsUpTwice),
    (.text "job:down",
      [⟨.text "job:down", .text "sum(down)", .recording, .empty, .text "g"⟩])], by decide⟩⟩

/-- The metric in common is direct twice and queried once. -/
theorem queries_agree_upAndDown :
    ∃ report : RuleReport,
      (RuleReport.ofDefinitions upAndDown.catalog (.text "job:up") readsUpTwice
          ([] : List Log.Event)).1 = .ok report ∧
        report.direct = ["up", "up"] ∧ report.indirect = ["job:down"] ∧
        (upAndDown.dependencyQueries (.text "job:up") ([] : List Log.Event)).1 = .ok ["up"] := by
  have hname : upAndDown.catalog.recording.get? (.text "job:up") = some readsUpTwice := by decide
  obtain ⟨_, _, hagree⟩ := upAndDown.queries_agree hname ([] : List Log.Event) ([] : List Log.Event)
  have hreport : (RuleReport.ofDefinitions upAndDown.catalog (.text "job:up") readsUpTwice
      ([] : List Log.Event)).1 = .ok ⟨.text "job:up",
        readsUpTwice.map fun definition => ⟨definition.query, definition.labels⟩,
        ["up", "up"], ["job:down"], []⟩ := by
    decide +kernel
  obtain ⟨hqueries, _, _⟩ := hagree _ hreport
  exact ⟨_, hreport, rfl, rfl, hqueries⟩

end RuleFixtures
