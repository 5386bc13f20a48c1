import RuleFixtures.Proofs.Fixtures.GroupOrder

/-!
What matters of the rules that are loaded is the sequence of definitions under each name.

How definitions of different names and kinds are mixed, how they are put into groups, and how the
groups are called does not show in a report or a fixture.

* `RuleGroup.queriesOf` is the sequence of a kind and a name, `RuleGroup.SameSequences` relates
  groups with the same sequences, and `RuleCatalog.SameSequences` their catalogs.
* `RuleReport.ofTable_eq`: such catalogs have the same reports.
* `Generator.all_eq`: and a run with them is the same, step by step.
* `same_runs_of_sameSequences`: so groups with the same sequences are not told apart.
-/

namespace RuleFixtures

/-! ### Sequences of definitions -/

/-- What a definition asks for, whatever its group. -/
def RuleDefinition.asQuery (definition : RuleDefinition) : RuleQuery :=
  ⟨definition.query, definition.labels⟩

namespace RuleGroup

/-- The expressions and labels of the rules of a kind and a name, in the order of loading. -/
def queriesOf (groups : List RuleGroup) (kind : RuleKind) (name : Json) : List RuleQuery :=
  groups.flatMap fun group =>
    (group.rules.filter fun rule => rule.kind = kind ∧ rule.name = name).map fun rule =>
      ⟨rule.query, rule.labels⟩

/-- The groups have the same sequence for every kind and every name. -/
def SameSequences (groups others : List RuleGroup) : Prop :=
  ∀ kind name, queriesOf groups kind name = queriesOf others kind name

/-- What holds of the definitions holds of the rules. -/
lemma forall_mem_definitions {groups : List RuleGroup} (P : Json → Prop) :
    (∀ definition ∈ definitions groups, P definition.name) ↔
      ∀ group ∈ groups, ∀ rule ∈ group.rules, P rule.name := by
  rw [definitions, List.forall_mem_flatMap]
  refine forall₂_congr fun group _ => ?_
  rw [List.forall_mem_map]
  rfl

/-- The sequence is that of the definitions as they are filed. -/
lemma queriesOf_eq (groups : List RuleGroup) (kind : RuleKind) (name : Json) :
    queriesOf groups kind name =
      ((definitions groups).filter fun definition =>
        definition.kind = kind ∧ definition.name = name).map RuleDefinition.asQuery := by
  rw [queriesOf, definitions, List.filter_flatMap, List.map_flatMap]
  refine List.flatMap_congr fun group _ => ?_
  rw [List.filter_map, List.map_map]
  rfl

/-- A name has a sequence if there is a rule of that name. -/
lemma queriesOf_ne_nil_iff (groups : List RuleGroup) (kind : RuleKind) (name : Json) :
    queriesOf groups kind name ≠ [] ↔
      ∃ definition ∈ definitions groups, definition.kind = kind ∧ definition.name = name := by
  rw [queriesOf_eq, ne_eq, List.map_eq_nil_iff, List.filter_eq_nil_iff]
  simp

/-- Groups with the same sequences have rules of the same names. -/
lemma SameSequences.exists_definition {groups others : List RuleGroup}
    (h : SameSequences groups others) {definition : RuleDefinition}
    (hdefinition : definition ∈ definitions others) :
    ∃ same ∈ definitions groups, same.kind = definition.kind ∧ same.name = definition.name := by
  rw [← queriesOf_ne_nil_iff, h, queriesOf_ne_nil_iff]
  exact ⟨definition, hdefinition, rfl, rfl⟩

end RuleGroup

/-- Both catalogs have the same names, and the same sequence under each of them. -/
structure RuleCatalog.SameSequences (catalog other : RuleCatalog) : Prop where
  keys : ∀ kind, (catalog.table kind).keys.Perm (other.table kind).keys
  queries : ∀ kind name,
    (((catalog.table kind).get? name).getD []).map RuleDefinition.asQuery =
      (((other.table kind).get? name).getD []).map RuleDefinition.asQuery
  texts : ∀ kind, ∀ name ∈ (catalog.table kind).keys, ∃ text, name = .text text

/-- Groups with the same sequences have such catalogs. -/
lemma RuleGroup.SameSequences.catalogs {groups others : List RuleGroup}
    (h : SameSequences groups others) {catalog other : RuleCatalog}
    (hcatalog : catalog.Files (definitions groups)) (hother : other.Files (definitions others))
    (htexts : ∀ definition ∈ definitions groups, ∃ name, definition.name = .text name) :
    catalog.SameSequences other where
  keys kind := by
    refine (List.perm_ext_iff_of_nodup (catalog.table kind).nodup (other.table kind).nodup).2 ?_
    intro name
    rw [← OrderedMap.keys, ← OrderedMap.keys, hcatalog.keys, hother.keys, ← queriesOf_ne_nil_iff,
      ← queriesOf_ne_nil_iff, h]
  queries kind name := by
    rw [hcatalog.found, hother.found, ← queriesOf_eq, ← queriesOf_eq, h]
  texts kind name hname := by
    obtain ⟨definition, hdefinition, _, rfl⟩ := (hcatalog.keys kind name).1 hname
    exact htexts definition hdefinition

/-! ### Reports -/

namespace RuleCatalog.SameSequences

variable {catalog other : RuleCatalog} (h : catalog.SameSequences other)

include h

/-- The same metrics are recorded. -/
lemma isRecorded_eq : catalog.isRecorded = other.isRecorded := by
  funext metric
  rw [Bool.eq_iff_iff, isRecorded_iff, isRecorded_iff]
  exact (h.keys .recording).mem_iff

lemma isScraped_eq : catalog.isScraped = other.isScraped := by
  funext metric
  rw [isScraped, isScraped, h.isRecorded_eq]

/-- The names are sorted alike. -/
lemma sortedNames_eq (kind : RuleKind) :
    sortedNames (catalog.table kind) = sortedNames (other.table kind) :=
  Json.sortBy_eq_of_perm (h.texts kind) (fun _ _ _ _ => id) (h.keys kind)

end RuleCatalog.SameSequences

namespace RuleReport

variable [PromQL.Language] {σ : Type} [Log.Journal σ] {catalog other : RuleCatalog}
  (h : catalog.SameSequences other)

include h

omit [PromQL.Language] in
/-- A report is extended by what a definition asks for. -/
lemma extend_eq_of_asQuery (report : RuleReport) {definition same : RuleDefinition}
    (hquery : definition.asQuery = same.asQuery) (deps : PromQL.DependencySet) :
    report.extend catalog definition deps = report.extend other same deps := by
  have hsame : (⟨definition.query, definition.labels⟩ : RuleQuery) = ⟨same.query, same.labels⟩ :=
    hquery
  rw [extend, extend, h.isScraped_eq, h.isRecorded_eq, hsame]

/-- Definitions that ask for the same are gone through alike. -/
lemma extendAll_eq {definitions others : List RuleDefinition}
    (hqueries : definitions.map RuleDefinition.asQuery = others.map RuleDefinition.asQuery)
    (report : RuleReport) :
    (extendAll catalog report definitions : Act σ RuleReport) = extendAll other report others := by
  induction definitions generalizing others report with
  | nil =>
    obtain rfl := List.map_eq_nil_iff.1 hqueries.symm
    rfl
  | cons definition rest ih =>
    obtain ⟨same, others, rfl, hquery, hrest⟩ := List.map_eq_cons_iff.1 hqueries.symm
    rw [extendAll, extendAll, show same.query = definition.query from
      congrArg RuleQuery.expression hquery]
    refine congrArg (PromQL.extract (fun _ => true) definition.query >>= ·) (funext fun deps => ?_)
    rw [extend_eq_of_asQuery h report hquery.symm, ih hrest.symm]

/-- The rules of a name have the same report. -/
lemma ofNames_eq (kind : RuleKind) (names : List Json) :
    (ofNames catalog (catalog.table kind) names : Act σ (List RuleReport)) =
      ofNames other (other.table kind) names := by
  induction names with
  | nil => rfl
  | cons name rest ih => rw [ofNames, ofNames, ofDefinitions, ofDefinitions,
      extendAll_eq h (h.queries kind name), ih]

/-- And so have those of a kind. -/
theorem ofTable_eq (kind : RuleKind) (select : Json → Bool) :
    (ofTable catalog (catalog.table kind) select : Act σ (List RuleReport)) =
      ofTable other (other.table kind) select := by
  rw [ofTable, ofTable, h.sortedNames_eq kind]
  exact congrArg _ (funext fun names => ofNames_eq h kind (names.filter select))

end RuleReport

section Runs

variable [PromQL.Language] {σ : Type} [Log.Journal σ] {catalog other : RuleCatalog}
  (h : catalog.SameSequences other)

include h

/-- The reports on all rules are the same. -/
theorem InspectionReport.ofCatalog_eq (selectRecording selectAlerting : Json → Bool) :
    (ofCatalog catalog selectRecording selectAlerting : Act σ InspectionReport) =
      ofCatalog other selectRecording selectAlerting := by
  have halerting := RuleReport.ofTable_eq h (σ := σ) .alerting selectAlerting
  have hrecording := RuleReport.ofTable_eq h (σ := σ) .recording selectRecording
  rw [ofCatalog, ofCatalog]
  simp only [RuleCatalog.table] at halerting hrecording
  rw [halerting, hrecording]

/-! ### Fixtures -/

namespace Generator

variable (g : Generator)

/-- Definitions that ask for the same have the same metrics. -/
lemma addQueries_eq (name : Json) {definitions others : List RuleDefinition}
    (hqueries : definitions.map RuleDefinition.asQuery = others.map RuleDefinition.asQuery)
    (queries : List String) :
    ((g.withCatalog catalog).addQueries name queries definitions : Act σ (List String)) =
      (g.withCatalog other).addQueries name queries others := by
  induction definitions generalizing others queries with
  | nil =>
    obtain rfl := List.map_eq_nil_iff.1 hqueries.symm
    rfl
  | cons definition rest ih =>
    obtain ⟨same, others, rfl, hquery, hrest⟩ := List.map_eq_cons_iff.1 hqueries.symm
    have hscraped : (g.withCatalog other).catalog.isScraped =
        (g.withCatalog catalog).catalog.isScraped := h.isScraped_eq.symm
    rw [addQueries, addQueries, hscraped, show same.query = definition.query from
      congrArg RuleQuery.expression hquery]
    simp only [ih hrest.symm]

/-- The metrics of a rule are the same. -/
lemma dependencyQueries_eq (name : Json) :
    ((g.withCatalog catalog).dependencyQueries name : Act σ (List String)) =
      (g.withCatalog other).dependencyQueries name :=
  g.addQueries_eq h name (h.queries .recording name) []

/-- So a rule is run alike. -/
lemma rule_eq (gateway : Gateway σ) (name : Json) (now : Instant) :
    (g.withCatalog catalog).rule gateway name now =
      (g.withCatalog other).rule gateway name now := by
  rw [rule, rule, g.dependencyQueries_eq h, ownValue_withCatalog, ownValue_withCatalog,
    history_withCatalog, history_withCatalog, inputRows_withCatalog, inputRows_withCatalog]
  rfl

lemma rules_eq (gateway : Gateway σ) (now : Instant) (names : List Json) :
    (g.withCatalog catalog).rules gateway now names =
      (g.withCatalog other).rules gateway now names := by
  induction names with
  | nil => rfl
  | cons name rest ih => rw [rules, rules, g.rule_eq h, ih]

/-- And so are all selected rules, whatever the gateway answers. -/
theorem all_eq (gateway : Gateway σ) (select : Json → Bool) (now : Instant) :
    (g.withCatalog catalog).all gateway select now =
      (g.withCatalog other).all gateway select now := by
  have hnames : RuleCatalog.sortedNames (g.withCatalog catalog).catalog.recording =
      RuleCatalog.sortedNames (g.withCatalog other).catalog.recording := h.sortedNames_eq .recording
  rw [all, all, hnames]
  exact congrArg _ (funext fun names => g.rules_eq h gateway now (names.filter select))

end Generator

end Runs

/-- Groups with the same sequence of expressions and labels for every kind and name are not told
apart. From any state the reports are the same, or the same fault; and a run that makes fixtures
makes the same calls of any gateway, whatever it answers, and comes to the same fixtures or the same
fault. -/
theorem same_runs_of_sameSequences [PromQL.Language] {groups others : List RuleGroup}
    (h : RuleGroup.SameSequences groups others)
    (htexts : ∀ group ∈ groups, ∀ rule ∈ group.rules, ∃ name, rule.name = .text name) :
    ∃ catalog other, RuleCatalog.ofGroups groups = .ok catalog ∧
      RuleCatalog.ofGroups others = .ok other ∧
      (∀ (σ : Type) [Log.Journal σ] (selectRecording selectAlerting : Json → Bool) (s : σ),
        InspectionReport.ofCatalog catalog selectRecording selectAlerting s =
          InspectionReport.ofCatalog other selectRecording selectAlerting s) ∧
      ∀ (σ : Type) [Log.Journal σ] (gateway : Gateway σ) (g : Generator) (select : Json → Bool)
        (now : Instant) (s : σ), ∃ calls result final,
          Act.Runs gateway ((g.withCatalog catalog).all gateway.recorded select now)
            ((g.withCatalog catalog).all gateway select now) s calls result final ∧
          Act.Runs gateway ((g.withCatalog other).all gateway.recorded select now)
            ((g.withCatalog other).all gateway select now) s calls result final := by
  have hnames : ∀ definition ∈ RuleGroup.definitions groups,
      ∃ name, definition.name = .text name :=
    (RuleGroup.forall_mem_definitions fun name => ∃ text, name = .text text).2 htexts
  have hothers : ∀ definition ∈ RuleGroup.definitions others,
      ∃ name, definition.name = .text name := by
    intro definition hdefinition
    obtain ⟨same, hsame, _, hname⟩ := h.exists_definition hdefinition
    rw [← hname]
    exact hnames same hsame
  obtain ⟨catalog, hcatalog, hfiles⟩ := RuleCatalog.exists_ofGroups hnames
  obtain ⟨other, hother, hfilesOther⟩ := RuleCatalog.exists_ofGroups hothers
  -- the catalogs hold the same definitions in the same order, up to their groups
  have hsame : catalog.SameSequences other := h.catalogs hfiles hfilesOther hnames
  refine ⟨catalog, other, hcatalog, hother, fun σ _ selectRecording selectAlerting s => ?_,
    fun σ _ gateway g select now s => ?_⟩
  · rw [InspectionReport.ofCatalog_eq hsame]
  · obtain ⟨calls, result, final, hruns, _⟩ :=
      (g.withCatalog catalog).run_all gateway select now s
    refine ⟨calls, result, final, hruns, ?_⟩
    rwa [← g.all_eq hsame, ← g.all_eq hsame]

/-! ### One group in the place of two -/

/-- The rules of both groups in one, the alerting rule first. -/
def upAndDownGroup : RuleGroup :=
  ⟨.text "three", [⟨.alerting, .text "JobDown", .text "job:up == 0", .empty⟩,
    ⟨.recording, .text "job:up", .text "up", .empty⟩,
    ⟨.recording, .text "job:up", .text "down", .empty⟩]⟩

lemma sameSequences_upAndDownGroup :
    RuleGroup.SameSequences [upGroup, downGroup] [upAndDownGroup] := by
  intro kind name
  cases kind with
  | alerting => simp [RuleGroup.queriesOf, upGroup, downGroup, upAndDownGroup, List.filter_cons]
  | recording =>
    simp only [RuleGroup.queriesOf, upGroup, downGroup, upAndDownGroup, List.flatMap_cons,
      List.flatMap_nil, List.filter_cons, List.filter_nil]
    by_cases hname : Json.text "job:up" = name <;> simp [hname]

/-- Both ways to put the rules into groups lead to the same report and to the same three calls. -/
theorem same_runs_upAndDownGroup :
    RuleGroup.SameSequences [upGroup, downGroup] [upAndDownGroup] ∧
      ∃ catalog other report calls result final,
        RuleCatalog.ofGroups [upGroup, downGroup] = .ok catalog ∧
        RuleCatalog.ofGroups [upAndDownGroup] = .ok other ∧
        (InspectionReport.ofCatalog catalog (fun _ => true) (fun _ => true)
          ([] : List Log.Event)).1 = .ok report ∧
        (InspectionReport.ofCatalog other (fun _ => true) (fun _ => true)
          ([] : List Log.Event)).1 = .ok report ∧
        report.recordingRules.map RuleReport.direct = [["up", "down"]] ∧
        Act.Runs upRecorded
          (((tenMinutes (.ofMinutes 1)).withCatalog catalog).all upRecorded.recorded (fun _ => true)
            ⟨660000000⟩)
          (((tenMinutes (.ofMinutes 1)).withCatalog catalog).all upRecorded (fun _ => true)
            ⟨660000000⟩) [] calls result final ∧
        Act.Runs upRecorded
          (((tenMinutes (.ofMinutes 1)).withCatalog other).all upRecorded.recorded (fun _ => true)
            ⟨660000000⟩)
          (((tenMinutes (.ofMinutes 1)).withCatalog other).all upRecorded (fun _ => true)
            ⟨660000000⟩) [] calls result final ∧
        calls.length = 3 := by
  have htexts : ∀ group ∈ [upGroup, downGroup], ∀ rule ∈ group.rules,
      ∃ name, rule.name = .text name := by
    intro group hgroup rule hrule
    fin_cases hgroup <;> fin_cases hrule <;> exact ⟨_, rfl⟩
  obtain ⟨catalog, other, hcatalog, hother, hreports, hruns⟩ :=
    same_runs_of_sameSequences sameSequences_upAndDownGroup htexts
  obtain ⟨calls, result, final, hfirst, hsecond⟩ := hruns (List Log.Event) upRecorded
    (tenMinutes (.ofMinutes 1)) (fun _ => true) ⟨660000000⟩ []
  -- one of the runs is looked at, the other one is the same
  have hdirect : (RuleCatalog.ofGroups [upGroup, downGroup]).toOption.bind (fun catalog =>
      (InspectionReport.ofCatalog catalog (fun _ => true) (fun _ => true)
        ([] : List Log.Event)).1.toOption.map fun report =>
          report.recordingRules.map RuleReport.direct) = some [["up", "down"]] := by
    decide +kernel
  have hlength : (RuleCatalog.ofGroups [upGroup, downGroup]).toOption.map (fun catalog =>
      (((tenMinutes (.ofMinutes 1)).withCatalog catalog).all upRecorded.recorded (fun _ => true)
        ⟨660000000⟩ ⟨[], []⟩).2.exchanges.length) = some 3 := by
    decide +kernel
  rw [hcatalog] at hdirect hlength
  obtain ⟨report, hreport, hdirect⟩ := Option.map_eq_some_iff.1 hdirect
  rw [toOption_eq_some_iff] at hreport
  refine ⟨sameSequences_upAndDownGroup, catalog, other, report, calls, result, final, hcatalog,
    hother, hreport, ?_, hdirect, hfirst, hsecond, ?_⟩
  · rw [← hreports, hreport]
  · have hcalls := Option.some.inj hlength
    dsimp only at hcalls
    rwa [hfirst.recorded, List.nil_append] at hcalls

end RuleFixtures
