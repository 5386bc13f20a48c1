import RuleFixtures.Proofs.Json.Order
import RuleFixtures.Proofs.PromQL.Selectors
import RuleFixtures.Proofs.Rules.Filing
import RuleFixtures.Proofs.Traversal
import RuleFixtures.Rules.Report

/-!
The metrics that rules read, sorted into direct and indirect ones.

* `PromQL.extract_eq`: what is extracted from a query are the selectors of its expression.
* `RuleReport.extendAll_apply`: a walk through definitions reads all their expressions and puts
  together what is in them.
* `RuleReport.ListsNames` says which names a list of a report has, how often and in which order.
* `RuleReport.Partitions` is what a report says of its definitions, `RuleReport.Analysis` what comes
  of analyzing them.
* `RuleReport.classified`: every rule is analyzed so, by itself and with all others.
-/

namespace RuleFixtures

namespace PromQL

/-- The metric names of an expression that are kept, each once and in ascending order. -/
def Expr.sortedNames (keep : String → Bool) (e : Expr) : List String :=
  sortTexts (e.mentions.filter keep).eraseDups

/-- The names that are mentioned are those of selectors. -/
lemma Expr.mem_mentions_iff_exists {e : Expr} {name : String} :
    name ∈ e.mentions ↔ ∃ selector ∈ e.selectors, selector.metric? = some name := by
  rw [Expr.mentions_eq, List.mem_filterMap]

lemma Expr.pairwise_sortedNames (keep : String → Bool) (e : Expr) :
    (e.sortedNames keep).Pairwise (· < ·) :=
  pairwise_lt_mergeSort (nodup_eraseDups _)

lemma Expr.mem_sortedNames_iff {keep : String → Bool} {e : Expr} {name : String} :
    name ∈ e.sortedNames keep ↔ name ∈ e.mentions ∧ keep name = true := by
  rw [sortedNames, sortTexts, List.mem_mergeSort, List.mem_eraseDups, List.mem_filter]

/-- Texts that are not there yet are added without repetitions. -/
lemma eraseDups_append_filter (known texts : List String) :
    known.eraseDups ++ texts.eraseDups.filter (fun text => !known.eraseDups.contains text) =
      (known ++ texts).eraseDups := by
  rw [List.eraseDups_append, filter_eraseDups, List.removeAll]
  refine congrArg (known.eraseDups ++ ·) (congrArg List.eraseDups ?_)
  refine List.filter_congr fun text _ => ?_
  simp

variable [Language]

/-- The expression of a query, which must be a text that reads. -/
def expressionOf (query : Json) : Except Fault Expr :=
  (queryText query).bind fun text =>
    match Language.parse text with
    | .ok e => .ok e
    | .error reason => .error (.failure (.unreadableExpression text reason))

/-- What is extracted are the selectors of the expression. -/
lemma extract_eq {σ : Type} [Log.Journal σ] (keep : String → Bool) (query : Json) (s : σ) :
    (extract keep query s).1 = (expressionOf query).map (DependencySet.ofExpr keep) := by
  rw [extract_apply, expressionOf]
  cases query with
  | text text =>
    simp only [queryText, Except.bind, DependencySet.ofQuery_eq]
    cases Language.parse text <;> rfl
  | _ => rfl

/-- The expression of a query is read from a text. -/
lemma exists_parse_of_expressionOf {query : Json} {e : Expr} (h : expressionOf query = .ok e) :
    ∃ text, Language.parse text = .ok e := by
  cases query with
  | text text =>
    simp only [expressionOf, queryText, Except.bind] at h
    split at h
    · next found hparse => exact ⟨text, by rw [hparse, Except.ok.inj h]⟩
    · cases h
  | _ => cases h

/-- A text fails to be an expression in one way only. -/
lemma expressionOf_text_eq_error {text : String} {fault : Fault}
    (h : expressionOf (.text text) = .error fault) :
    ∃ reason, Language.parse text = .error reason ∧
      fault = .failure (.unreadableExpression text reason) := by
  simp only [expressionOf, queryText, Except.bind] at h
  split at h
  · cases h
  · next reason hparse => exact ⟨reason, hparse, (Except.error.inj h).symm⟩

/-- Names may be picked out after they are collected. -/
lemma DependencySet.filter_metricNames (keep : String → Bool) (e : Expr) :
    (ofExpr (fun _ => true) e).metricNames.filter keep = e.sortedNames keep := by
  rw [metricNames, keys_ofExpr, List.filter_true, filter_sortTexts, filter_eraseDups,
    Expr.sortedNames]

end PromQL

namespace RuleReport

open PromQL

/-! ### The lists of a report -/

/-- The names in expressions that pass a test, one expression after the other: for each expression
every name in it once, in ascending order. -/
def ListsNames (keep : String → Prop) (expressions : List Expr) (names : List String) : Prop :=
  ∃ parts : List (List String),
    List.Forall₂ (fun e part => part.Pairwise (· < ·) ∧
      ∀ name, name ∈ part ↔ keep name ∧ ∃ selector ∈ e.selectors, selector.metric? = some name)
      expressions parts ∧
    names = parts.flatten

lemma listsNames_flatMap {keep : String → Bool} {test : String → Prop}
    (hkeep : ∀ name, keep name = true ↔ test name) (expressions : List Expr) :
    ListsNames test expressions (expressions.flatMap (Expr.sortedNames keep)) := by
  refine ⟨expressions.map (Expr.sortedNames keep), ?_, List.flatMap_def⟩
  rw [List.forall₂_map_right_iff, List.forall₂_same]
  refine fun e _ => ⟨e.pairwise_sortedNames keep, fun name => ?_⟩
  rw [Expr.mem_sortedNames_iff, hkeep, and_comm, Expr.mem_mentions_iff_exists]

namespace ListsNames

variable {keep : String → Prop} {expressions : List Expr} {names : List String}

/-- A name is listed if it passes the test and an expression has a selector of that name. -/
lemma mem_iff (h : ListsNames keep expressions names) (name : String) :
    name ∈ names ↔
      keep name ∧ ∃ e ∈ expressions, ∃ selector ∈ e.selectors, selector.metric? = some name := by
  obtain ⟨parts, hparts, rfl⟩ := h
  induction hparts with
  | nil => simp
  | cons hpart _ ih =>
    rw [List.flatten_cons, List.mem_append, hpart.2, ih, ← and_or_left, List.exists_mem_cons_iff]

/-- A name that passes the test is listed once for each expression that has it. -/
lemma count_eq (h : ListsNames keep expressions names) {name : String} (hkeep : keep name) :
    names.count name = expressions.countP fun e => decide (name ∈ e.mentions) := by
  obtain ⟨parts, hparts, rfl⟩ := h
  induction hparts with
  | nil => rfl
  | @cons e part _ _ hpart _ ih =>
    have hone : part.count name = if name ∈ e.mentions then 1 else 0 := by
      have hnodup : part.Nodup := hpart.1.imp fun hlt => hlt.ne
      rw [hnodup.count]
      refine if_congr ?_ rfl rfl
      rw [hpart.2, Expr.mem_mentions_iff_exists, and_iff_right hkeep]
    rw [List.flatten_cons, List.count_append, ih, hone, List.countP_cons, add_comm]
    simp

end ListsNames

/-! ### Going through definitions -/

variable [Language] {σ : Type} [Log.Journal σ] (catalog : RuleCatalog)

lemma extend_eq (report : RuleReport) {known : List String}
    (hknown : report.unnamed = known.eraseDups) (definition : RuleDefinition) (e : Expr) :
    report.extend catalog definition (DependencySet.ofExpr (fun _ => true) e) =
      ⟨report.name, report.queries ++ [⟨definition.query, definition.labels⟩],
        report.direct ++ e.sortedNames catalog.isScraped,
        report.indirect ++ e.sortedNames catalog.isRecorded,
        (known ++ e.textsOf none).eraseDups⟩ := by
  have hunnamed := (DependencySet.collects_ofExpr (fun _ => true) e).unnamed
  rw [extend, DependencySet.filter_metricNames, DependencySet.filter_metricNames, hunnamed, hknown,
    eraseDups_append_filter]

/-- Going through definitions. -/
lemma extendAll_apply (report : RuleReport) (known : List String)
    (hknown : report.unnamed = known.eraseDups) (definitions : List RuleDefinition) (s : σ) :
    (extendAll catalog report definitions s).1 =
      (definitions.mapM fun definition => expressionOf definition.query).map fun expressions =>
        ⟨report.name,
          report.queries ++ definitions.map fun definition => ⟨definition.query, definition.labels⟩,
          report.direct ++ expressions.flatMap (Expr.sortedNames catalog.isScraped),
          report.indirect ++ expressions.flatMap (Expr.sortedNames catalog.isRecorded),
          (known ++ expressions.flatMap (Expr.textsOf · none)).eraseDups⟩ := by
  induction definitions generalizing report known s with
  | nil =>
    rw [List.mapM_nil, extendAll, Act.pure_apply]
    simp [pure, Except.pure, Except.map, ← hknown]
  | cons definition rest ih =>
    have hextract := extract_eq (fun _ => true) definition.query s
    rw [extendAll, List.mapM_cons]
    cases hread : expressionOf definition.query with
    | error fault =>
      rw [hread] at hextract
      exact Act.fst_bind_of_error hextract
    | ok e =>
      rw [hread] at hextract
      rw [Act.fst_bind_of_ok hextract, extend_eq catalog report hknown, ih _ _ rfl]
      cases rest.mapM fun definition => expressionOf definition.query with
      | error fault => rfl
      | ok expressions =>
        simp [bind, Except.bind, pure, Except.pure, Except.map]

/-- The metrics of the definitions are sorted out by the names of the recording rules. -/
structure Partitions (report : RuleReport) (catalog : RuleCatalog)
    (definitions : List RuleDefinition) (expressions : List Expr) : Prop where
  queries : report.queries = definitions.map fun definition => ⟨definition.query, definition.labels⟩
  direct : ListsNames (fun name => .text name ∉ catalog.recording.keys) expressions report.direct
  indirect : ListsNames (fun name => .text name ∈ catalog.recording.keys) expressions
    report.indirect
  mem_direct : ∀ name, name ∈ report.direct ↔ .text name ∉ catalog.recording.keys ∧
    ∃ e ∈ expressions, ∃ selector ∈ e.selectors, selector.metric? = some name
  mem_indirect : ∀ name, name ∈ report.indirect ↔ .text name ∈ catalog.recording.keys ∧
    ∃ e ∈ expressions, ∃ selector ∈ e.selectors, selector.metric? = some name
  disjoint : ∀ name ∈ report.direct, name ∉ report.indirect
  count : ∀ name, report.direct.count name + report.indirect.count name =
    expressions.countP fun e => decide (name ∈ e.mentions)
  unnamed : report.unnamed = (expressions.flatMap (Expr.textsOf · none)).eraseDups
  nodup_unnamed : report.unnamed.Nodup

/-- What comes of analyzing definitions: a report if all of them read, and otherwise the fault of
the first that does not. -/
inductive Analysis (catalog : RuleCatalog) (name : Json) (definitions : List RuleDefinition) :
    Except Fault RuleReport → Prop where
  | report {report : RuleReport} {expressions : List Expr}
    (hread : List.Forall₂ (fun definition e => expressionOf definition.query = .ok e) definitions
      expressions)
    (hname : report.name = name) (h : report.Partitions catalog definitions expressions) :
    Analysis catalog name definitions (.ok report)
  | unreadable {before after : List RuleDefinition} {definition : RuleDefinition} {fault : Fault}
    (hsplit : definitions = before ++ definition :: after)
    (hbefore : ∀ earlier ∈ before, ∃ e, expressionOf earlier.query = .ok e)
    (hfault : expressionOf definition.query = .error fault) :
    Analysis catalog name definitions (.error fault)

/-- What the definitions that read come to. -/
lemma partitions (name : Json) (definitions : List RuleDefinition) (expressions : List Expr) :
    Partitions
      ⟨name, definitions.map fun definition => ⟨definition.query, definition.labels⟩,
        expressions.flatMap (Expr.sortedNames catalog.isScraped),
        expressions.flatMap (Expr.sortedNames catalog.isRecorded),
        (expressions.flatMap (Expr.textsOf · none)).eraseDups⟩
      catalog definitions expressions := by
  have hdirect := listsNames_flatMap catalog.isScraped_iff expressions
  have hindirect := listsNames_flatMap catalog.isRecorded_iff expressions
  refine ⟨rfl, hdirect, hindirect, hdirect.mem_iff, hindirect.mem_iff, fun name hname hother => ?_,
    fun name => ?_, rfl, nodup_eraseDups _⟩
  · exact ((hdirect.mem_iff name).1 hname).1 ((hindirect.mem_iff name).1 hother).1
  · -- the list that a name is not in has it zero times
    by_cases hname : .text name ∈ catalog.recording.keys
    · rw [hindirect.count_eq hname, Nat.add_eq_right, List.count_eq_zero, hdirect.mem_iff]
      exact fun h => h.1 hname
    · rw [hdirect.count_eq hname, Nat.add_eq_left, List.count_eq_zero, hindirect.mem_iff]
      exact fun h => hname h.1

/-- Definitions are analyzed as described. -/
theorem analysis_ofDefinitions (name : Json) (definitions : List RuleDefinition) (s : σ) :
    Analysis catalog name definitions (ofDefinitions catalog name definitions s).1 := by
  have hrun := extendAll_apply catalog ⟨name, [], [], [], []⟩ [] rfl definitions s
  rw [ofDefinitions, hrun]
  cases hread : definitions.mapM fun definition => expressionOf definition.query with
  | error fault =>
    obtain ⟨before, definition, after, hsplit, hbefore, hfault⟩ := mapM_eq_error_iff.1 hread
    exact .unreadable hsplit hbefore hfault
  | ok expressions =>
    exact .report (mapM_eq_ok_iff.1 hread) rfl (partitions catalog name definitions expressions)

/-- Definitions one of which does not read have no report; if all are texts, it is told as an
expression. -/
lemma Analysis.exists_failure {name : Json} {definitions : List RuleDefinition}
    {result : Except Fault RuleReport} (h : Analysis catalog name definitions result)
    (htexts : ∀ definition ∈ definitions, ∃ text, definition.query = .text text)
    {definition : RuleDefinition} (hmem : definition ∈ definitions)
    (hinvalid : ∀ e, expressionOf definition.query ≠ .ok e) :
    ∃ failure : Failure, result = .error (.failure failure) ∧ failure.category = .expression := by
  cases h with
  | report hread _ _ =>
    obtain ⟨e, _, he⟩ := exists_of_forall₂ hread hmem
    exact absurd he (hinvalid e)
  | @unreadable before after first _ hsplit _ hfault =>
    obtain ⟨text, htext⟩ := htexts first (by rw [hsplit]; simp)
    rw [htext] at hfault
    obtain ⟨reason, -, rfl⟩ := expressionOf_text_eq_error hfault
    exact ⟨_, rfl, rfl⟩

/-! ### The rules of a table -/

/-- The rules of some names are analyzed one after the other. The first fault is the result. -/
inductive Survey (catalog : RuleCatalog) (table : RuleTable) :
    List Json → Except Fault (List RuleReport) → Prop where
  | done : Survey catalog table [] (.ok [])
  | stops {name : Json} {definitions : List RuleDefinition} {fault : Fault} (rest : List Json)
    (hname : table.get? name = some definitions)
    (h : Analysis catalog name definitions (.error fault)) :
    Survey catalog table (name :: rest) (.error fault)
  | goesOn {name : Json} {definitions : List RuleDefinition} {report : RuleReport}
    {rest : List Json} {result : Except Fault (List RuleReport)}
    (hname : table.get? name = some definitions)
    (h : Analysis catalog name definitions (.ok report))
    (hrest : Survey catalog table rest result) :
    Survey catalog table (name :: rest) (result.map (report :: ·))

/-- Names of a table are surveyed. -/
lemma survey_ofNames {table : RuleTable} {names : List Json}
    (hnames : ∀ name ∈ names, name ∈ table.keys) (s : σ) :
    Survey catalog table names (ofNames catalog table names s).1 := by
  induction names generalizing s with
  | nil => exact .done
  | cons name rest ih =>
    rw [List.forall_mem_cons] at hnames
    obtain ⟨definitions, hname⟩ : ∃ definitions, table.get? name = some definitions := by
      rw [← Option.ne_none_iff_exists', ne_eq, table.get?_eq_none_iff, not_not]
      exact hnames.1
    have hanalysis := analysis_ofDefinitions catalog name definitions s
    rw [ofNames, hname, Option.getD_some]
    cases hfirst : (ofDefinitions catalog name definitions s).1 with
    | error fault =>
      rw [hfirst] at hanalysis
      rw [Act.fst_bind_of_error hfirst]
      exact .stops rest hname hanalysis
    | ok report =>
      rw [hfirst] at hanalysis
      rw [Act.fst_bind_of_ok hfirst, Act.fst_map]
      exact .goesOn hname hanalysis (ih hnames.2 _)

/-- The selected rules of a table are surveyed in the order of their names, unless the names do not
compare. -/
inductive TableSurvey (catalog : RuleCatalog) (table : RuleTable) (select : Json → Bool) :
    Except Fault (List RuleReport) → Prop where
  | unsorted {fault : ShapeFault} (h : RuleCatalog.sortedNames table = .error fault) :
    TableSurvey catalog table select (.error (.shape fault))
  | sorted {names : List Json} {result : Except Fault (List RuleReport)}
    (h : RuleCatalog.sortedNames table = .ok names)
    (hsurvey : Survey catalog table (names.filter select) result) :
    TableSurvey catalog table select result

lemma tableSurvey_ofTable (table : RuleTable) (select : Json → Bool) (s : σ) :
    TableSurvey catalog table select (ofTable catalog table select s).1 := by
  rw [ofTable, Act.bind_apply, Act.ofExcept]
  cases hnames : RuleCatalog.sortedNames table with
  | error fault => exact .unsorted hnames
  | ok names =>
    refine .sorted hnames (survey_ofNames catalog (fun name hname => ?_) s)
    exact (Json.perm_of_sortBy hnames).subset (List.mem_of_mem_filter hname)

/-- The alerting rules are surveyed, then the recording rules. -/
lemma ofCatalog_cases (selectRecording selectAlerting : Json → Bool) (s : σ) :
    (∃ fault,
      (InspectionReport.ofCatalog catalog selectRecording selectAlerting s).1 = .error fault ∧
      (TableSurvey catalog catalog.alerting selectAlerting (.error fault) ∨
        TableSurvey catalog catalog.recording selectRecording (.error fault))) ∨
    ∃ report, (InspectionReport.ofCatalog catalog selectRecording selectAlerting s).1 = .ok report ∧
      TableSurvey catalog catalog.alerting selectAlerting (.ok report.alertingRules) ∧
      TableSurvey catalog catalog.recording selectRecording (.ok report.recordingRules) := by
  have halerting := tableSurvey_ofTable catalog catalog.alerting selectAlerting s
  rw [InspectionReport.ofCatalog]
  cases hfirst : (ofTable catalog catalog.alerting selectAlerting s).1 with
  | error fault =>
    rw [hfirst] at halerting
    exact .inl ⟨fault, Act.fst_bind_of_error hfirst, .inl halerting⟩
  | ok alerting =>
    have hrecording := tableSurvey_ofTable catalog catalog.recording selectRecording
      (ofTable catalog catalog.alerting selectAlerting s).2
    rw [hfirst] at halerting
    rw [Act.fst_bind_of_ok hfirst, Act.fst_map]
    cases hsecond : (ofTable catalog catalog.recording selectRecording
        (ofTable catalog catalog.alerting selectAlerting s).2).1 with
    | error fault =>
      rw [hsecond] at hrecording
      exact .inl ⟨fault, rfl, .inr hrecording⟩
    | ok recording =>
      rw [hsecond] at hrecording
      exact .inr ⟨⟨alerting, recording⟩, rfl, halerting, hrecording⟩

/-- The metrics of a rule are sorted into direct and indirect ones as its report says, whatever its
name and its definitions are; a rule with a text that does not read has no report, and the reports
on all selected rules are those of the single rules. -/
theorem classified (s : σ) :
    (∀ name definitions, Analysis catalog name definitions
        (ofDefinitions catalog name definitions s).1) ∧
      (∀ name definitions,
        (∀ definition ∈ definitions, ∃ text, definition.query = .text text) →
        (∃ definition ∈ definitions, ∀ e, expressionOf definition.query ≠ .ok e) →
        ∃ failure : Failure, failure.category = .expression ∧
          (ofDefinitions catalog name definitions s).1 = .error (.failure failure)) ∧
      ∀ selectRecording selectAlerting,
        (∃ fault,
          (InspectionReport.ofCatalog catalog selectRecording selectAlerting s).1 = .error fault ∧
          (TableSurvey catalog catalog.alerting selectAlerting (.error fault) ∨
            TableSurvey catalog catalog.recording selectRecording (.error fault))) ∨
        ∃ report,
          (InspectionReport.ofCatalog catalog selectRecording selectAlerting s).1 = .ok report ∧
          TableSurvey catalog catalog.alerting selectAlerting (.ok report.alertingRules) ∧
          TableSurvey catalog catalog.recording selectRecording (.ok report.recordingRules) := by
  refine ⟨fun name definitions => analysis_ofDefinitions catalog name definitions s,
    fun name definitions htexts hinvalid => ?_,
    fun selectRecording selectAlerting => ofCatalog_cases catalog selectRecording selectAlerting s⟩
  obtain ⟨definition, hmem, hinvalid⟩ := hinvalid
  obtain ⟨failure, hresult, hcategory⟩ :=
    (analysis_ofDefinitions catalog name definitions s).exists_failure catalog htexts hmem hinvalid
  exact ⟨failure, hcategory, hresult⟩

end RuleReport

/-! ### A rule that reads itself -/

namespace RuleReport

open PromQL

/-- A definition of one rule. -/
def jobUp (query : String) : RuleDefinition :=
  ⟨.text "job:up", .text query, .recording, .empty, .text ""⟩

/-- The rule is defined twice, once by a scraped metric and once by itself. -/
def readsItself : RuleCatalog :=
  ⟨.empty, OrderedMap.empty.insert (.text "job:up") [jobUp "up", jobUp "job:up"]⟩

/-- It has a direct metric and an indirect one. With a third definition that does not read it has no
report. -/
theorem classified_readsItself :
    (∃ report, (ofDefinitions readsItself (.text "job:up") [jobUp "up", jobUp "job:up"]
        ([] : List Log.Event)).1 = .ok report ∧
      report.direct = ["up"] ∧ report.indirect = ["job:up"]) ∧
    ∃ failure : Failure, failure.category = .expression ∧
      (ofDefinitions readsItself (.text "job:up") [jobUp "up", jobUp "job:up", jobUp "sum("]
        ([] : List Log.Event)).1 = .error (.failure failure) := by
  have hlists : (ofDefinitions readsItself (.text "job:up") [jobUp "up", jobUp "job:up"]
      ([] : List Log.Event)).1.toOption.map (fun report => (report.direct, report.indirect)) =
        some (["up"], ["job:up"]) := by
    decide +kernel
  have htexts : ∀ definition ∈ [jobUp "up", jobUp "job:up", jobUp "sum("],
      ∃ text, definition.query = .text text := by
    intro definition hdefinition
    fin_cases hdefinition <;> exact ⟨_, rfl⟩
  -- the third definition opens a parenthesis that nothing closes
  have hinvalid : ∀ e, expressionOf (jobUp "sum(").query ≠ .ok e := by
    have hnone : Expr.parse? "sum(" = none := Option.isNone_iff_eq_none.1 (by decide +kernel)
    intro e he
    simp only [jobUp, expressionOf, queryText, Except.bind, Language.parse, hnone] at he
    cases he
  refine ⟨?_, (classified readsItself ([] : List Log.Event)).2.1 _ _ htexts
    ⟨_, by simp, hinvalid⟩⟩
  have hanalysis := (classified readsItself ([] : List Log.Event)).1 (.text "job:up")
    [jobUp "up", jobUp "job:up"]
  generalize (ofDefinitions readsItself (.text "job:up") [jobUp "up", jobUp "job:up"]
    ([] : List Log.Event)).1 = result at hanalysis hlists
  cases hanalysis with
  | @report report _ _ _ _ =>
    obtain ⟨hdirect, hindirect⟩ := Prod.mk.inj (Option.some.inj hlists)
    exact ⟨report, rfl, hdirect, hindirect⟩
  | unreadable _ _ _ => cases hlists

end RuleReport

end RuleFixtures
