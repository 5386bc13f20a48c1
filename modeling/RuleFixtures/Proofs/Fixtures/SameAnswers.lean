import RuleFixtures.Proofs.Fixtures.AnswerOrder
import RuleFixtures.Rules.Report

/-!
Two runs that are given the same answers.

Their states may differ, as long as neither the answers nor what is logged shows it.

* `Generator.agree_rule_of_same`: the runs make the same fixture of a rule.
* `Generator.agree_all_of_same`: and so for all rules that are selected.
* `InspectionReport.agree_ofCatalog`: reports are the same in all states.
-/

namespace RuleFixtures

/-- It does not matter what is selected besides the names of a table. -/
lemma RuleCatalog.filter_sortedNames {table : RuleTable} {names : List Json}
    (hnames : sortedNames table = .ok names) {select other : Json → Bool}
    (hselect : ∀ name ∈ table.keys, select name = other name) :
    names.filter select = names.filter other :=
  List.filter_congr fun name hname => hselect name ((Json.perm_of_sortBy hnames).subset hname)

variable {σ τ : Type} [Log.Journal σ] [Log.Journal τ] {R : σ → τ → Prop}
  {E : Fault → Fault → Prop} (hE : ∀ fault, E fault fault)

/-! ### Fixtures -/

namespace Generator

variable {first : Gateway σ} {second : Gateway τ} (h : first.Agree R E Eq second) (g : Generator)

include hE h

/-- The same history is collected. -/
lemma agree_collectHistory_of_same (start alignment : Instant) (queries : List String)
    (history : Accumulator) :
    Act.Agree R E Eq (g.collectHistory first start alignment history queries)
      (g.collectHistory second start alignment history queries) := by
  induction queries generalizing history with
  | nil => exact .pure rfl
  | cons query rest ih =>
    refine (h.queryRange query start alignment g.step).bind fun answer _ hsame => ?_
    subst hsame
    cases answer with
    | matrix streams =>
      refine (Act.Agree.ofExcept (.refl hE _)).bind fun collected _ hsame => ?_
      subst hsame
      exact (Act.Agree.log (h.record _)).bind fun _ _ _ => ih _
    | _ => exact (Act.Agree.log (h.record _)).bind fun _ _ _ => ih history

/-- And so over the window of a rule. -/
lemma agree_history_of_same (queries : List String) (alignment : Instant) :
    Act.Agree R E Eq (g.history first queries alignment) (g.history second queries alignment) := by
  refine (Act.Agree.ofExcept (.refl hE _)).bind fun start _ hsame => ?_
  subst hsame
  exact g.agree_collectHistory_of_same hE h start alignment queries .empty

variable [PromQL.Language]

/-- The fixture of a rule is the same. -/
theorem agree_rule_of_same (name : Json) (now : Instant) :
    Act.Agree R E Eq (g.rule first name now) (g.rule second name now) := by
  have hown : Act.Agree R E Eq (g.ownValue first name now) (g.ownValue second name now) := by
    refine g.agree_ownValue_of_query (h.query _ now) fun answer _ hsame => ?_
    subst hsame
    exact .refl hE _
  refine g.agree_rule_of_rows g.catalog hE h.record
    (g.agree_addQueries hE h.record name [] ((g.catalog.recording.get? name).getD []))
    (fun _ _ hsame => by rw [hsame]) hown (H := Eq) ?_ (fun _ _ hsame => by rw [hsame])
    (fun _ _ hsame => by rw [hsame])
  intro queries _ alignment hsame
  subst hsame
  exact g.agree_history_of_same hE h queries alignment

/-- The fixtures of all selected rules are the same. -/
theorem agree_all_of_same (select : Json → Bool) (now : Instant) :
    Act.Agree R E Eq (g.all first select now) (g.all second select now) :=
  g.agree_all g.catalog hE select rfl fun name => g.agree_rule_of_same hE h name now

omit hE h in
/-- The rules of sorted names are made in their order. -/
lemma all_apply {gateway : Gateway σ} {names : List Json}
    (hnames : RuleCatalog.sortedNames g.catalog.recording = .ok names) (select : Json → Bool)
    (now : Instant) (s : σ) :
    g.all gateway select now s = g.rules gateway now (names.filter select) s := by
  rw [all, Act.bind_apply, Act.ofExcept, hnames]
  rfl

omit hE h in
/-- Selections that agree on the names of rules lead to the same run. -/
lemma all_congr {gateway : Gateway σ} {select other : Json → Bool}
    (hselect : ∀ name ∈ g.catalog.recording.keys, select name = other name) (now : Instant) :
    g.all gateway select now = g.all gateway other now := by
  funext s
  cases hnames : RuleCatalog.sortedNames g.catalog.recording with
  | error fault =>
    rw [all, all, Act.bind_apply, Act.bind_apply, Act.ofExcept, hnames]
    rfl
  | ok names =>
    rw [g.all_apply hnames, g.all_apply hnames, RuleCatalog.filter_sortedNames hnames hselect]

end Generator

/-! ### Reports -/

section Reports

variable
  (hrecord : ∀ event s t, R s t → R (Log.Journal.record event s) (Log.Journal.record event t))
  (catalog : RuleCatalog)

include hE hrecord

namespace RuleReport

variable [PromQL.Language]

/-- Definitions are gone through alike. -/
lemma agree_extendAll (report : RuleReport) (definitions : List RuleDefinition) :
    Act.Agree R E Eq (extendAll catalog report definitions : Act σ RuleReport)
      (extendAll catalog report definitions : Act τ RuleReport) := by
  induction definitions generalizing report with
  | nil => exact .pure rfl
  | cons definition rest ih =>
    refine (PromQL.agree_extract hE hrecord _ definition.query).bind fun deps _ hsame => ?_
    subst hsame
    exact ih _

lemma agree_ofNames (table : RuleTable) (names : List Json) :
    Act.Agree R E Eq (ofNames catalog table names : Act σ (List RuleReport))
      (ofNames catalog table names : Act τ (List RuleReport)) := by
  induction names with
  | nil => exact .pure rfl
  | cons name rest ih =>
    refine (agree_extendAll hE hrecord catalog _ _).bind fun report _ hsame => ?_
    subst hsame
    exact ih.map fun reports _ hsame => by rw [hsame]

lemma agree_ofTable (table : RuleTable) (select : Json → Bool) :
    Act.Agree R E Eq (ofTable catalog table select : Act σ (List RuleReport))
      (ofTable catalog table select : Act τ (List RuleReport)) := by
  refine (Act.Agree.ofExcept (.refl hE _)).bind fun names _ hsame => ?_
  subst hsame
  exact agree_ofNames hE hrecord catalog table _

omit hE hrecord in
lemma ofTable_congr (table : RuleTable) {select other : Json → Bool}
    (hselect : ∀ name ∈ table.keys, select name = other name) :
    (ofTable catalog table select : Act σ (List RuleReport)) = ofTable catalog table other := by
  funext s
  rw [ofTable, ofTable, Act.bind_apply, Act.bind_apply, Act.ofExcept]
  cases hnames : RuleCatalog.sortedNames table with
  | error fault => rfl
  | ok names =>
    change ofNames catalog table (names.filter select) s =
      ofNames catalog table (names.filter other) s
    rw [RuleCatalog.filter_sortedNames hnames hselect]

end RuleReport

/-- The reports on all selected rules are the same. -/
theorem InspectionReport.agree_ofCatalog [PromQL.Language]
    (selectRecording selectAlerting : Json → Bool) :
    Act.Agree R E Eq (ofCatalog catalog selectRecording selectAlerting : Act σ InspectionReport)
      (ofCatalog catalog selectRecording selectAlerting : Act τ InspectionReport) := by
  refine (RuleReport.agree_ofTable hE hrecord catalog _ _).bind fun alerting _ hsame => ?_
  subst hsame
  exact (RuleReport.agree_ofTable hE hrecord catalog _ _).map fun recording _ hsame => by rw [hsame]

end Reports

end RuleFixtures
