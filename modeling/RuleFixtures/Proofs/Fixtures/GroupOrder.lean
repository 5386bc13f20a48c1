import RuleFixtures.Proofs.Fixtures.Generation
import RuleFixtures.Proofs.Fixtures.MetricOrder
import RuleFixtures.Proofs.Rules.Reordering

/-!
The order of rules and of their groups does not show in the fixtures.

* `Generator.agree_dependencyQueries`: a rule has the same metrics in another order.
* `Generator.agree_all_of_files`: a run makes the same fixtures.
* `fixtures_of_reordered_groups`: fixtures do not depend on the order of the groups, nor of the
  rules in a group.
-/

namespace RuleFixtures

namespace Generator

variable {σ : Type} [Log.Journal σ] {gateway : Gateway σ}
  {instant : String → Instant → Except Fault QueryResult}
  {range : String → Instant → Instant → Duration → Except Fault QueryResult}
  (g : Generator) {catalog other : RuleCatalog} {definitions others : List RuleDefinition}

/-- The metrics of a rule are queried in another order. -/
lemma agree_dependencyQueries (h : catalog.Files definitions) (hother : other.Files others)
    (hperm : definitions.Perm others) (name : Json) :
    Act.Agree (fun _ _ => True) (fun _ _ => True)
      (fun queries others => queries.Perm others ∧
        ∀ query ∈ queries, PromQL.IsMetricName query)
      ((g.withCatalog catalog).dependencyQueries name : Act σ (List String))
      ((g.withCatalog other).dependencyQueries name : Act σ (List String)) := by
  intro s t _
  refine ⟨?_, trivial⟩
  rw [dependencyQueries_apply, dependencyQueries_apply]
  exact (g.agree_ruleMetrics h hother hperm name).and_left fun metrics hmetrics metric hmetric =>
    isMetricName_of_mem_ruleMetrics hmetrics hmetric

/-- Catalogs of the same rules in another order lead to the same fixtures. -/
theorem agree_all_of_files (hanswers : gateway.Answers instant range)
    (hnamed : ∀ metric, PromQL.IsMetricName metric → ∀ start finish step streams,
      range metric start finish step = .ok (.matrix streams) →
      ∀ stream ∈ streams, stream.labels.get? Labels.nameLabel = some (.text metric))
    (h : catalog.Files definitions) (hother : other.Files others) (hperm : definitions.Perm others)
    (htexts : ∀ definition ∈ definitions, ∃ name, definition.name = .text name)
    (select : Json → Bool) (now : Instant) :
    Act.Agree (fun _ _ => True) (fun _ _ => True) Eq
      ((g.withCatalog catalog).all gateway select now)
      ((g.withCatalog other).all gateway select now) := by
  have hquery (name : Json) : Act.Agree (fun _ _ => True) (fun _ _ => True) Eq
      (gateway.query (g.ownQuery name) now) (gateway.query (g.ownQuery name) now) := by
    intro s t _
    rw [hanswers.query, hanswers.query]
    exact ⟨.refl (fun _ => trivial) _, trivial⟩
  have hown (name : Json) : Act.Agree (fun _ _ => True) (fun _ _ => True) Eq
      (g.ownValue gateway name now) (g.ownValue gateway name now) := by
    refine g.agree_ownValue_of_query (hquery name) ?_
    rintro answer _ rfl
    exact .refl (fun _ => trivial) _
  refine (g.withCatalog catalog).agree_all other (fun _ => trivial) select
    (h.sortedNames_eq hother hperm htexts .recording) fun name => ?_
  refine (g.withCatalog catalog).agree_rule other (fun _ => trivial) (fun _ _ _ _ => trivial)
    (g.agree_dependencyQueries h hother hperm name) (fun _ _ h => h.1.length_eq) (hown name) ?_
  intro queries others alignment hqueries
  rw [history_withCatalog]
  exact g.agree_history_of_perm hanswers hnamed hqueries.1 hqueries.2 alignment

end Generator

/-- With a backend that answers each query as a function of what is asked, and queries for a metric
with series of that name, the order of the groups and of their rules does not matter: either both
orders lead to the same fixtures, or neither does to any. -/
theorem fixtures_of_reordered_groups {σ : Type} [Log.Journal σ] {gateway : Gateway σ}
    {instant : String → Instant → Except Fault QueryResult}
    {range : String → Instant → Instant → Duration → Except Fault QueryResult}
    (hanswers : gateway.Answers instant range)
    (hnamed : ∀ metric, PromQL.IsMetricName metric → ∀ start finish step streams,
      range metric start finish step = .ok (.matrix streams) →
      ∀ stream ∈ streams, stream.labels.get? Labels.nameLabel = some (.text metric))
    {groups others : List RuleGroup} (hgroups : RuleGroup.Reordered groups others)
    (htexts : ∀ group ∈ groups, ∀ rule ∈ group.rules, ∃ name, rule.name = .text name)
    (g : Generator) (select : Json → Bool) (now : Instant) :
    ∃ catalog other, RuleCatalog.ofGroups groups = .ok catalog ∧
      RuleCatalog.ofGroups others = .ok other ∧
      ∀ s t fixtures, ((g.withCatalog catalog).all gateway select now s).1 = .ok fixtures ↔
        ((g.withCatalog other).all gateway select now t).1 = .ok fixtures := by
  have hperm := hgroups.definitions_perm
  have hnames : ∀ definition ∈ RuleGroup.definitions groups,
      ∃ name, definition.name = .text name := by
    intro definition hdefinition
    obtain ⟨group, hgroup, hmem⟩ := List.mem_flatMap.1 hdefinition
    obtain ⟨rule, hrule, rfl⟩ := List.mem_map.1 hmem
    exact htexts group hgroup rule hrule
  -- both catalogs can be built, for all names are texts
  obtain ⟨catalog, hcatalog, hfiles⟩ := RuleCatalog.exists_ofGroups hnames
  obtain ⟨other, hother, hfilesOther⟩ := RuleCatalog.exists_ofGroups fun definition hdefinition =>
    hnames definition (hperm.symm.subset hdefinition)
  refine ⟨catalog, other, hcatalog, hother, fun s t fixtures => ?_⟩
  obtain ⟨hagree, _⟩ :=
    g.agree_all_of_files hanswers hnamed hfiles hfilesOther hperm hnames select now s t trivial
  generalize ((g.withCatalog catalog).all gateway select now s).1 = first at hagree
  generalize ((g.withCatalog other).all gateway select now t).1 = second at hagree
  cases hagree with
  | values h => rw [h]
  | faults _ => simp

/-! ### Two groups -/

/-- A recording rule and an alerting rule. -/
def upGroup : RuleGroup :=
  ⟨.text "one", [⟨.recording, .text "job:up", .text "up", .empty⟩,
    ⟨.alerting, .text "JobDown", .text "job:up == 0", .empty⟩]⟩

/-- A further definition of the recording rule, which reads another metric. -/
def downGroup : RuleGroup := ⟨.text "two", [⟨.recording, .text "job:up", .text "down", .empty⟩]⟩

/-- The groups in another order, and the rules of one of them. -/
def twoGroupsReordered : List RuleGroup :=
  [downGroup, { upGroup with rules := upGroup.rules.reverse }]

/-- The series of a metric, if it is recorded. -/
def seriesOfUp (metric : String) : List Stream :=
  if metric = "up" then
    [⟨.ofTexts namedUp, [⟨⟨0⟩, .ofInt 1⟩, ⟨⟨600000000⟩, .ofInt 2⟩]⟩]
  else []

/-- A backend in which one metric is recorded, and the rule. -/
def upRecorded : Gateway (List Log.Event) where
  ruleGroups := pure []
  query _ _ := pure (.matrix [⟨.ofTexts namedUp, [⟨⟨600000000⟩, .ofInt 2⟩]⟩])
  queryRange metric _ _ _ := pure (.matrix (seriesOfUp metric))

lemma answers_upRecorded : upRecorded.Answers
    (fun _ _ => .ok (.matrix [⟨.ofTexts namedUp, [⟨⟨600000000⟩, .ofInt 2⟩]⟩]))
    fun metric _ _ _ => .ok (.matrix (seriesOfUp metric)) :=
  ⟨fun _ _ _ => rfl, fun _ _ _ _ _ => rfl⟩

/-- Both orders lead to the same fixture. -/
theorem fixtures_of_twoGroupsReordered :
    RuleGroup.Reordered [upGroup, downGroup] twoGroupsReordered ∧
      ∃ catalog other fixtures, RuleCatalog.ofGroups [upGroup, downGroup] = .ok catalog ∧
        RuleCatalog.ofGroups twoGroupsReordered = .ok other ∧
        (((tenMinutes (.ofMinutes 1)).withCatalog catalog).all upRecorded (fun _ => true)
          ⟨660000000⟩ []).1 = .ok fixtures ∧
        (((tenMinutes (.ofMinutes 1)).withCatalog other).all upRecorded (fun _ => true)
          ⟨660000000⟩ []).1 = .ok fixtures ∧
        fixtures.map (fun fixture => fixture.inputSeries.length) = [1] := by
  -- the backend answers with series of the metric that it is asked for
  have hnamed : ∀ metric, PromQL.IsMetricName metric →
      ∀ (_ _ : Instant) (_ : Duration) (streams : List Stream),
      (Except.ok (.matrix (seriesOfUp metric)) : Except Fault QueryResult) =
        .ok (.matrix streams) →
      ∀ stream ∈ streams, stream.labels.get? Labels.nameLabel = some (.text metric) := by
    intro metric _ _ _ _ streams hstreams stream hstream
    obtain rfl := QueryResult.matrix.inj (Except.ok.inj hstreams)
    rw [seriesOfUp] at hstream
    split at hstream
    · next hup =>
      rw [List.mem_singleton.1 hstream, hup]
      decide
    · cases hstream
  -- the groups change places, and the rules of the second are turned round
  have hgroups : RuleGroup.Reordered [upGroup, downGroup] twoGroupsReordered :=
    ⟨[downGroup, upGroup], .swap _ _ [], .cons ⟨rfl, .refl _⟩
      (.cons ⟨rfl, (List.reverse_perm _).symm⟩ .nil)⟩
  have htexts : ∀ group ∈ [upGroup, downGroup], ∀ rule ∈ group.rules,
      ∃ name, rule.name = .text name := by
    intro group hgroup rule hrule
    fin_cases hgroup <;> fin_cases hrule <;> exact ⟨_, rfl⟩
  obtain ⟨catalog, other, hcatalog, hother, hiff⟩ := fixtures_of_reordered_groups
    answers_upRecorded hnamed hgroups htexts (tenMinutes (.ofMinutes 1)) (fun _ => true)
    ⟨660000000⟩
  -- one of the runs is looked at; the theorem tells of the other one
  have hmade : (RuleCatalog.ofGroups [upGroup, downGroup]).toOption.bind (fun catalog =>
      (((tenMinutes (.ofMinutes 1)).withCatalog catalog).all upRecorded (fun _ => true)
        ⟨660000000⟩ []).1.toOption.map fun fixtures =>
          fixtures.map fun fixture => fixture.inputSeries.length) = some [1] := by
    decide +kernel
  rw [hcatalog] at hmade
  obtain ⟨fixtures, hfixtures, hlengths⟩ := Option.map_eq_some_iff.1 hmade
  have hfirst : (((tenMinutes (.ofMinutes 1)).withCatalog catalog).all upRecorded
      (fun _ => true) ⟨660000000⟩ []).1 = .ok fixtures := by
    cases hrun : (((tenMinutes (.ofMinutes 1)).withCatalog catalog).all upRecorded
        (fun _ => true) ⟨660000000⟩ []).1 with
    | error fault =>
      rw [hrun] at hfixtures
      cases hfixtures
    | ok found =>
      rw [hrun] at hfixtures
      exact congrArg Except.ok (Option.some.inj hfixtures)
  exact ⟨hgroups, catalog, other, fixtures, hcatalog, hother, hfirst,
    (hiff [] [] fixtures).1 hfirst, hlengths⟩

end RuleFixtures
