import RuleFixtures.Proofs.Fixtures.GroupOrder
import RuleFixtures.Proofs.Fixtures.SameAnswers

/-!
The rules of a run do not influence each other.

Of a backend that answers each query as a function of what is asked. The fixture of a rule is then
what comes of making it by itself, so that selecting rules picks fixtures out.

* `Generator.exprs_of_all`: the fixtures of a run are named for the selected rules.
* `Generator.rule_eq_rule`: the fixture of a rule does not depend on the state before.
* `Generator.fst_rules`: the fixtures of several rules are those of the single rules.
* `Generator.all_isolated`: what is selected besides a rule does not change its fixture.
-/

namespace RuleFixtures

/-- Elements that are picked out have the results that are picked out. -/
lemma mapM_filter {α β ε : Type} {f : α → Except ε β} {xs : List α} {ys : List β}
    (h : xs.mapM f = .ok ys) {keep : α → Bool} {test : β → Bool}
    (hkeep : ∀ x y, f x = .ok y → test y = keep x) :
    (xs.filter keep).mapM f = .ok (ys.filter test) := by
  rw [mapM_eq_ok_iff] at h ⊢
  refine List.rel_filter (fun x y hxy => ?_) h
  dsimp only
  rw [hkeep x y hxy]

namespace Generator

variable [PromQL.Language] {σ : Type} [Log.Journal σ] {gateway : Gateway σ} (g : Generator)

/-- A fixture is named for its rule. -/
lemma expr_of_rule {name : Json} {now : Instant} {s : σ} {fixture : Fixture}
    (h : (g.rule gateway name now s).1 = .ok fixture) : fixture.test.expr = name := by
  obtain ⟨queries, _, h⟩ := Act.fst_bind_eq_ok_iff.1 h
  obtain ⟨⟨expected, alignment⟩, _, h⟩ := Act.fst_bind_eq_ok_iff.1 h
  obtain ⟨history, _, h⟩ := Act.fst_bind_eq_ok_iff.1 h
  obtain ⟨_, _, h⟩ := Act.fst_bind_eq_ok_iff.1 h
  obtain ⟨rows, _, h⟩ := Act.fst_bind_eq_ok_iff.1 h
  cases h
  rfl

lemma exprs_of_rules {names : List Json} {now : Instant} {s : σ} {fixtures : List Fixture}
    (h : (g.rules gateway now names s).1 = .ok fixtures) :
    fixtures.map (fun fixture => fixture.test.expr) = names := by
  induction names generalizing s fixtures with
  | nil =>
    cases h
    rfl
  | cons name rest ih =>
    obtain ⟨fixture, hrule, h⟩ := Act.fst_bind_eq_ok_iff.1 h
    obtain ⟨others, hothers, h⟩ := Act.fst_bind_eq_ok_iff.1 h
    cases h
    rw [List.map_cons, g.expr_of_rule hrule, ih hothers]

/-- The fixtures of a run are named for the selected rules, in the order of the names. -/
lemma exprs_of_all {select : Json → Bool} {now : Instant} {s : σ} {fixtures : List Fixture}
    (h : (g.all gateway select now s).1 = .ok fixtures) :
    ∃ names, RuleCatalog.sortedNames g.catalog.recording = .ok names ∧
      fixtures.map (fun fixture => fixture.test.expr) = names.filter select := by
  obtain ⟨names, hnames, h⟩ := Act.fst_bind_eq_ok_iff.1 h
  refine ⟨names, ?_, g.exprs_of_rules h⟩
  rw [Act.ofExcept] at hnames
  cases hsorted : RuleCatalog.sortedNames g.catalog.recording with
  | error fault =>
    rw [hsorted] at hnames
    cases hnames
  | ok sorted =>
    rw [hsorted] at hnames
    cases hnames
    rfl

variable {instant : String → Instant → Except Fault QueryResult}
  {range : String → Instant → Instant → Duration → Except Fault QueryResult}
  (hanswers : gateway.Answers instant range) (now : Instant)

include hanswers

/-- The fixture of a rule does not depend on what went before. -/
lemma rule_eq_rule (name : Json) (s t : σ) :
    (g.rule gateway name now s).1 = (g.rule gateway name now t).1 := by
  have hsame : gateway.Agree (fun _ _ => True) Eq Eq gateway := by
    refine ⟨fun expr time s t _ => ?_, fun expr start finish step s t _ => ?_,
      fun _ _ _ _ => trivial⟩
    · rw [hanswers.query, hanswers.query]
      exact ⟨.refl (fun _ => rfl) _, trivial⟩
    · rw [hanswers.queryRange, hanswers.queryRange]
      exact ⟨.refl (fun _ => rfl) _, trivial⟩
  exact (g.agree_rule_of_same (fun _ => rfl) hsame name now s t trivial).1.eq

/-- So every rule of a run has the fixture that it has by itself. -/
lemma fst_rules (names : List Json) (s t : σ) :
    (g.rules gateway now names s).1 =
      names.mapM fun name => (g.rule gateway name now t).1 := by
  induction names generalizing s with
  | nil => rfl
  | cons name rest ih =>
    have hfirst := g.rule_eq_rule hanswers now name s t
    rw [rules, List.mapM_cons]
    cases hrule : (g.rule gateway name now t).1 with
    | error fault => exact Act.fst_bind_of_error (hfirst.trans hrule)
    | ok fixture =>
      rw [Act.fst_bind_of_ok (hfirst.trans hrule), Act.fst_map, ih]
      cases rest.mapM fun name => (g.rule gateway name now t).1 <;> rfl

/-- The fixtures of a run are those of the selected rules, each made by itself. -/
lemma all_eq_ok_iff (select : Json → Bool) (s t : σ) (fixtures : List Fixture) :
    (g.all gateway select now s).1 = .ok fixtures ↔
      ∃ names, RuleCatalog.sortedNames g.catalog.recording = .ok names ∧
        (names.filter select).mapM (fun name => (g.rule gateway name now t).1) = .ok fixtures := by
  rw [all, Act.fst_bind_eq_ok_iff]
  refine exists_congr fun names => and_congr ?_ ?_
  · rw [Act.ofExcept]
    cases RuleCatalog.sortedNames g.catalog.recording <;> simp [Except.mapError]
  · rw [g.fst_rules hanswers now _ _ t]

/-- A selected rule has one fixture, the one that it has by itself. -/
lemma exists_fixture {select : Json → Bool} {s : σ} {fixtures : List Fixture}
    (h : (g.all gateway select now s).1 = .ok fixtures) {name : Json}
    (hname : name ∈ g.catalog.recording.keys) (hselect : select name = true) (t : σ) :
    ∃ fixture, (g.rule gateway name now t).1 = .ok fixture ∧
      (fixtures.filter fun fixture => fixture.test.expr = name) = [fixture] := by
  obtain ⟨names, hnames, hmade⟩ := (g.all_eq_ok_iff hanswers now select s t fixtures).1 h
  have hperm := Json.perm_of_sortBy hnames
  have hnodup : (names.filter select).Nodup :=
    (hperm.nodup_iff.2 g.catalog.recording.nodup).filter _
  have hmem : name ∈ names.filter select := List.mem_filter.2 ⟨hperm.symm.subset hname, hselect⟩
  have hfixture : ((names.filter select).filter fun other => other = name).mapM
      (fun name => (g.rule gateway name now t).1) =
        .ok (fixtures.filter fun fixture => fixture.test.expr = name) :=
    mapM_filter hmade fun other fixture hrule => by rw [g.expr_of_rule hrule]
  rw [List.filter_eq, List.count_eq_one_of_mem hnodup hmem, List.replicate_one, mapM_eq_ok_iff,
    List.forall₂_cons_left_iff] at hfixture
  obtain ⟨fixture, rest, hrule, hrest, hfixtures⟩ := hfixture
  rw [List.forall₂_nil_left_iff.1 hrest] at hfixtures
  exact ⟨fixture, hrule, hfixtures⟩

/-- Rules do not influence each other. If all rules have fixtures, the run of a selection makes
those of them that it selects, in their order; and whichever selection makes the fixture of a rule,
it is the one that comes of making the rule by itself. -/
theorem all_isolated (s t : σ) :
    (∀ fixtures, (g.all gateway (fun _ => true) now s).1 = .ok fixtures → ∀ select,
      (g.all gateway select now t).1 =
        .ok (fixtures.filter fun fixture => select fixture.test.expr)) ∧
      ∀ select other fixtures others, (g.all gateway select now s).1 = .ok fixtures →
        (g.all gateway other now t).1 = .ok others →
        ∀ name ∈ g.catalog.recording.keys, select name = true → other name = true →
        ∃ fixture, (fixtures.filter fun fixture => fixture.test.expr = name) = [fixture] ∧
          (others.filter fun fixture => fixture.test.expr = name) = [fixture] ∧
          ∀ r, (g.rule gateway name now r).1 = .ok fixture := by
  refine ⟨fun fixtures hall select => ?_, ?_⟩
  · rw [g.all_eq_ok_iff hanswers now _ _ t] at hall ⊢
    obtain ⟨names, hnames, hmade⟩ := hall
    rw [List.filter_true] at hmade
    exact ⟨names, hnames, mapM_filter hmade fun name fixture hrule => by
      rw [g.expr_of_rule hrule]⟩
  · intro select other fixtures others hfirst hsecond name hname hselect hother
    obtain ⟨fixture, hrule, hfixtures⟩ := g.exists_fixture hanswers now hfirst hname hselect s
    obtain ⟨same, hsame, hothers⟩ := g.exists_fixture hanswers now hsecond hname hother s
    rw [hrule] at hsame
    obtain rfl := Except.ok.inj hsame
    refine ⟨fixture, hfixtures, hothers, fun r => ?_⟩
    rw [g.rule_eq_rule hanswers now name r s, hrule]

end Generator

/-! ### Two rules that read one metric -/

/-- Two rules that read the same metric, and one that reads another. -/
def threeRules : RuleCatalog where
  alerting := .empty
  recording := ⟨[
    (.text "job:up", [⟨.text "job:up", .text "sum(up)", .recording, .empty, .text "g"⟩]),
    (.text "job:idle", [⟨.text "job:idle", .text "down", .recording, .empty, .text "g"⟩]),
    (.text "job:all", [⟨.text "job:all", .text "up * 2", .recording, .empty, .text "g"⟩])],
    by decide⟩

lemma sortedNames_threeRules : RuleCatalog.sortedNames threeRules.recording =
    .ok [.text "job:all", .text "job:idle", .text "job:up"] := by
  have hkeys : threeRules.recording.keys = ["job:up", "job:idle", "job:all"].map .text := rfl
  rw [RuleCatalog.sortedNames, hkeys, Json.sortBy_text]
  simp [List.mergeSort, List.MergeSort.Internal.splitInTwo]

/-- Of the three fixtures a selection makes its own two, in the order of the names; the rules in it
share a metric. -/
theorem all_isolated_threeRules :
    upRecorded.Answers
        (fun _ _ => .ok (.matrix [⟨.ofTexts namedUp, [⟨⟨600000000⟩, .ofInt 2⟩]⟩]))
        (fun metric _ _ _ => .ok (.matrix (seriesOfUp metric))) ∧
      ∃ fixtures,
        (((tenMinutes (.ofMinutes 1)).withCatalog threeRules).all upRecorded (fun _ => true)
          ⟨660000000⟩ []).1 = .ok fixtures ∧
        (((tenMinutes (.ofMinutes 1)).withCatalog threeRules).all upRecorded
          (fun name => name ≠ .text "job:idle") ⟨660000000⟩ []).1 =
            .ok (fixtures.filter fun fixture => fixture.test.expr ≠ .text "job:idle") ∧
        fixtures.map (fun fixture => (fixture.test.expr, fixture.inputSeries.length)) =
          [(.text "job:all", 1), (.text "job:idle", 0), (.text "job:up", 1)] := by
  have hmade : (((tenMinutes (.ofMinutes 1)).withCatalog threeRules).all upRecorded
      (fun _ => true) ⟨660000000⟩ []).1.toOption.map (fun fixtures =>
        fixtures.map fun fixture => (fixture.test.expr, fixture.inputSeries.length)) =
          some [(.text "job:all", 1), (.text "job:idle", 0), (.text "job:up", 1)] := by
    rw [Generator.all_apply _ sortedNames_threeRules]
    decide +kernel
  obtain ⟨fixtures, hfixtures, hexprs⟩ := Option.map_eq_some_iff.1 hmade
  rw [toOption_eq_some_iff] at hfixtures
  exact ⟨answers_upRecorded, fixtures, hfixtures,
    (((tenMinutes (.ofMinutes 1)).withCatalog threeRules).all_isolated answers_upRecorded
      ⟨660000000⟩ [] []).1 fixtures hfixtures _, hexprs⟩

end RuleFixtures
