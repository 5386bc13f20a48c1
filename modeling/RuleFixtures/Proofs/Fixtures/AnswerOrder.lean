import RuleFixtures.Fixtures.TestFile
import RuleFixtures.Proofs.Fixtures.Generation
import RuleFixtures.Proofs.Fixtures.SeriesOrder

/-!
The order of a backend's answers does not show in the fixtures.

Two runs ask two gateways whose answers differ in the order of the series in a matrix and of the
labels of a series. They are led side by side from call to call.

* `Generator.agree_ownValue` is the step for the recorded values, `Generator.agree_collectHistory`
  that for the queries of a window.
* `Generator.agree_all_of_reordered`: both runs come to the same result.
* `Generator.same_run_of_reordered`: and they make the same calls on their way.
-/

namespace RuleFixtures

variable {σ τ : Type} [Log.Journal σ] [Log.Journal τ] {R : σ → τ → Prop}
  {E : Fault → Fault → Prop}

/-! ### Metrics -/

section Metrics

variable (hE : ∀ fault, E fault fault)
  (hrecord : ∀ event s t, R s t → R (Log.Journal.record event s) (Log.Journal.record event t))

include hE hrecord

variable [PromQL.Language]

/-- A query is read alike in related states. -/
lemma PromQL.agree_extract (keep : String → Bool) (query : Json) :
    Act.Agree R E Eq (extract keep query : Act σ DependencySet)
      (extract keep query : Act τ DependencySet) := by
  refine (Act.Agree.ofExcept (.refl hE (queryText query))).bind fun text _ hsame => ?_
  subst hsame
  cases DependencySet.ofQuery keep text with
  | error failure => exact .fail (hE _)
  | ok set =>
    dsimp only
    split
    · exact (Act.Agree.log (hrecord _)).bind fun _ _ _ => .pure rfl
    · exact .pure rfl

/-- Definitions are gone through alike. -/
lemma Generator.agree_addQueries (g : Generator) (name : Json) (queries : List String)
    (definitions : List RuleDefinition) :
    Act.Agree R E Eq (g.addQueries name queries definitions : Act σ (List String))
      (g.addQueries name queries definitions : Act τ (List String)) := by
  induction definitions generalizing queries with
  | nil => exact .pure rfl
  | cons definition rest ih =>
    refine (PromQL.agree_extract hE hrecord _ definition.query).bind fun deps _ hsame => ?_
    subst hsame
    dsimp only
    split
    · exact (Act.Agree.log (hrecord _)).bind fun _ _ _ => ih _
    · exact (Act.Agree.pure (Q := Eq) (rfl : PUnit.unit = PUnit.unit)).bind fun _ _ _ => ih _

end Metrics

/-! ### Answers in another order -/

section Reordered

variable (hE : ∀ fault, E fault fault) {first : Gateway σ} {second : Gateway τ}
  (h : first.Agree R E QueryResult.Reordered second) (g : Generator)

include hE h

/-- The recorded values of a rule are the same. -/
theorem Generator.agree_ownValue (name : Json) (now : Instant) :
    Act.Agree R E Eq (g.ownValue first name now) (g.ownValue second name now) := by
  refine g.agree_ownValue_of_query (h.query _ now) fun answer other hanswer => ?_
  cases hanswer with
  | same answer _ => exact .refl hE _
  | matrix hperm hlabels hkeys =>
    rw [(sameSeries_of_reordered hperm hlabels hkeys).ownAnswer_eq g name]
    exact .refl hE _

omit hE in
/-- Histories that are alike stay so when metrics are queried. -/
theorem Generator.agree_collectHistory (start alignment : Instant) (queries : List String)
    {history other : Accumulator} (halike : history.Alike other) :
    Act.Agree R E SampleHistory.Alike (g.collectHistory first start alignment history queries)
      (g.collectHistory second start alignment other queries) := by
  induction queries generalizing history other with
  | nil => exact .pure halike
  | cons query rest ih =>
    refine (h.queryRange query start alignment g.step).bind fun answer _ hanswer => ?_
    cases hanswer with
    | same answer hkind =>
      cases answer with
      | matrix streams => exact absurd rfl hkind
      | _ => exact (Act.Agree.log (h.record _)).bind fun _ _ _ => ih halike
    | matrix hperm hlabels hkeys =>
      -- reordered series offer the same samples under each key
      have hsame := sameSeries_of_reordered hperm hlabels hkeys
      obtain ⟨added, grown, others, hgrown, hothers, hnext⟩ := hsame.exists_collect halike
      dsimp only
      rw [hgrown, hothers]
      refine (Act.Agree.ofExcept (Q := fun a b => a.1 = b.1 ∧ a.2.Alike b.2)
        (.values ⟨rfl, hnext⟩)).bind fun a b hab => ?_
      obtain ⟨added, grown⟩ := a
      obtain ⟨_, others⟩ := b
      obtain ⟨rfl, hnext⟩ := hab
      exact (Act.Agree.log (h.record _)).bind fun _ _ _ => ih hnext

/-- The history of the metrics over a window is alike. -/
lemma Generator.agree_history (queries : List String) (alignment : Instant) :
    Act.Agree R E SampleHistory.Alike (g.history first queries alignment)
      (g.history second queries alignment) := by
  refine (Act.Agree.ofExcept (.refl hE _)).bind fun start _ hsame => ?_
  subst hsame
  exact g.agree_collectHistory h start alignment queries SampleHistory.alike_empty

variable [PromQL.Language]

/-- A run makes the same fixtures. -/
theorem Generator.agree_all_of_reordered (select : Json → Bool) (now : Instant) :
    Act.Agree R E Eq (g.all first select now) (g.all second select now) := by
  refine g.agree_all g.catalog hE select rfl fun name => ?_
  refine g.agree_rule g.catalog hE h.record
    (g.agree_addQueries hE h.record name [] ((g.catalog.recording.get? name).getD []))
    (fun _ _ hsame => by rw [hsame]) (g.agree_ownValue hE h name now) ?_
  intro queries _ alignment hsame
  subst hsame
  exact g.agree_history hE h queries alignment

end Reordered

/-- Gateways whose answers differ in the order of series and labels only are asked the same queries
by a run, which comes to the same result with both: the same fault, or the same fixtures, and so the
same text of a test file. -/
theorem Generator.same_run_of_reordered [PromQL.Language] {first : Gateway σ} {second : Gateway τ}
    (h : first.Agree R Eq QueryResult.Reordered second) {s : σ} {t : τ} (hstates : R s t)
    (g : Generator) (select : Json → Bool) (now : Instant) :
    ∃ calls others result final final',
      Act.Runs first (g.all first.recorded select now) (g.all first select now) s calls result
        final ∧
      Act.Runs second (g.all second.recorded select now) (g.all second select now) t others result
        final' ∧
      List.Forall₂ (Exchange.Agree Eq QueryResult.Reordered) calls others ∧ R final final' ∧
      ∀ fixtures tests, (g.all first select now s).1 = .ok fixtures →
        (g.all second select now t).1 = .ok tests → ∀ interval files,
        TestFile.render ⟨fixtures, interval, files⟩ = TestFile.render ⟨tests, interval, files⟩ := by
  obtain ⟨calls, result, final, hruns, _⟩ := g.run_all first select now s
  obtain ⟨others, result', final', hruns', _⟩ := g.run_all second select now t
  have hagree := g.agree_all_of_reordered (fun _ => rfl) h.recorded select now ⟨[], s⟩ ⟨[], t⟩
    ⟨.nil, hstates⟩
  rw [hruns.recorded, hruns'.recorded] at hagree
  obtain ⟨hresults, hcalls, hfinal⟩ := hagree
  obtain rfl := hresults.eq
  refine ⟨calls, others, result, final, final', hruns, hruns', hcalls, hfinal, ?_⟩
  intro fixtures tests hfixtures htests interval files
  rw [hruns.plain] at hfixtures
  rw [hruns'.plain] at htests
  rw [Except.ok.inj (hfixtures.symm.trans htests)]

/-! ### Two jobs -/

/-- The labels of a job, the name first. -/
def nameFirst (job : String) : TextLabels := ⟨[("__name__", "up"), ("job", job)], by simp⟩

/-- The same labels, the name last. -/
def nameLast (job : String) : TextLabels := ⟨[("job", job), ("__name__", "up")], by simp⟩

/-- A backend that answers every query for recorded values with some series, and every query over a
window with others. -/
def recordingJobs (own window : List Stream) : Gateway (List Log.Event) where
  ruleGroups := pure []
  query _ _ := pure (.matrix own)
  queryRange _ _ _ _ := pure (.matrix window)

/-- A job is recorded at both ends of ten minutes, and another one has no samples. -/
def twoJobs : Gateway (List Log.Event) :=
  recordingJobs
    [⟨.ofTexts (nameFirst "a"), [⟨⟨600000000⟩, .ofInt 2⟩]⟩, ⟨.ofTexts (nameFirst "b"), []⟩]
    [⟨.ofTexts (nameFirst "a"), [⟨⟨0⟩, .ofInt 1⟩, ⟨⟨600000000⟩, .ofInt 2⟩]⟩]

/-- The same jobs in another order. -/
def twoJobsReordered : Gateway (List Log.Event) :=
  recordingJobs
    [⟨.ofTexts (nameLast "b"), []⟩, ⟨.ofTexts (nameLast "a"), [⟨⟨600000000⟩, .ofInt 2⟩]⟩]
    [⟨.ofTexts (nameLast "a"), [⟨⟨0⟩, .ofInt 1⟩, ⟨⟨600000000⟩, .ofInt 2⟩]⟩]

lemma reordered_nameLast (job : String) (samples : List Sample) :
    Stream.Reordered ⟨.ofTexts (nameFirst job), samples⟩ ⟨.ofTexts (nameLast job), samples⟩ :=
  ⟨rfl, _, _, rfl, rfl, .swap _ _ []⟩

lemma agree_twoJobsReordered :
    twoJobs.Agree (fun _ _ => True) Eq QueryResult.Reordered twoJobsReordered where
  query _ _ := .pure (Q := QueryResult.Reordered) (.matrix (.swap _ _ [])
    (.cons (reordered_nameLast "b" _) (.cons (reordered_nameLast "a" _) .nil)) (by decide +kernel))
  queryRange _ _ _ _ := .pure (Q := QueryResult.Reordered)
    (.matrix (.refl _) (.cons (reordered_nameLast "a" _) .nil) (by decide +kernel))
  record _ _ _ _ := trivial

/-- Both give the same fixture. -/
theorem same_run_twoJobs :
    twoJobs.Agree (fun _ _ => True) Eq QueryResult.Reordered twoJobsReordered ∧
      ∃ fixtures,
        ((tenMinutes (.ofMinutes 1)).all twoJobs (fun _ => true) ⟨660000000⟩ []).1 =
          .ok fixtures ∧
        ((tenMinutes (.ofMinutes 1)).all twoJobsReordered (fun _ => true) ⟨660000000⟩ []).1 =
          .ok fixtures ∧
        fixtures.map (fun fixture => fixture.test.expected) =
          [[⟨.text "up\x7bjob=\"a\"\x7d", .ofInt 2⟩]] := by
  obtain ⟨_, _, result, _, _, hruns, hruns', _⟩ :=
    Generator.same_run_of_reordered agree_twoJobsReordered (s := []) (t := []) trivial
      (tenMinutes (.ofMinutes 1)) (fun _ => true) ⟨660000000⟩
  have hfirst : ((((tenMinutes (.ofMinutes 1)).all twoJobs (fun _ => true)
      ⟨660000000⟩ []).1).toOption.map fun fixtures =>
        fixtures.map fun fixture => fixture.test.expected) =
          some [[⟨.text "up\x7bjob=\"a\"\x7d", .ofInt 2⟩]] := by
    decide +kernel
  rw [hruns.plain] at hfirst
  obtain ⟨fixtures, hfixtures, hexpected⟩ := Option.map_eq_some_iff.1 hfirst
  obtain rfl : result = .ok fixtures := by
    cases result with
    | error fault => cases hfixtures
    | ok found => exact congrArg Except.ok (Option.some.inj hfixtures)
  exact ⟨agree_twoJobsReordered, fixtures, congrArg Prod.fst hruns.plain,
    congrArg Prod.fst hruns'.plain, hexpected⟩

end RuleFixtures
