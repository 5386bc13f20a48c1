import RuleFixtures.Proofs.Fixtures.SameAnswers

/-!
Fixtures from answers that are known.

What a backend answers may depend on its state, as long as some property of the state settles it.

* `Act.Gives` holds of steps that come to a value from every state with a property, and keep the
  property; `Act.Gives.bind` puts such steps together.
* `Generator.gives_history`: the history holds the first series of every key in the answers.
* `Generator.gives_rule`: the fixture of a rule whose queries are answered.
-/

namespace RuleFixtures

variable {σ : Type} {P : σ → Prop}

/-! ### Steps that come to a value -/

/-- From every state with a property the step comes to a value, and the property stays. -/
def Act.Gives {α : Type} (P : σ → Prop) (m : Act σ α) (a : α) : Prop :=
  ∀ s, P s → (m s).1 = .ok a ∧ P (m s).2

namespace Act.Gives

variable {α γ : Type} {a : α} {b : γ}

protected lemma pure (a : α) : Gives P (pure a) a := fun _ hs => ⟨rfl, hs⟩

protected lemma ofExcept {result : Except Fault α} (h : result = .ok a) :
    Gives P (Act.ofExcept result) a := fun _ hs => ⟨h, hs⟩

protected lemma log [Log.Journal σ] (hrecord : ∀ event s, P s → P (Log.Journal.record event s))
    (event : Log.Event) : Gives P (Act.log event) () := fun s hs => ⟨rfl, hrecord event s hs⟩

/-- Steps in turn come to the value of the last one. -/
lemma bind {m : Act σ α} {f : α → Act σ γ} (hm : Gives P m a) (hf : Gives P (f a) b) :
    Gives P (m >>= f) b := by
  intro s hs
  obtain ⟨hvalue, hnext⟩ := hm s hs
  rcases hrun : m s with ⟨result, next⟩
  rw [hrun] at hvalue hnext
  obtain rfl := hvalue
  rw [Act.bind_apply, hrun]
  exact hf next hnext

end Act.Gives

/-! ### The run of a rule -/

namespace Generator

variable [Log.Journal σ] (hrecord : ∀ event s, P s → P (Log.Journal.record event s))
  (g : Generator) {gateway : Gateway σ} {name : Json} {now alignment : Instant}
  {queries : List String} {answer : String → List Stream}

include hrecord

variable [PromQL.Language]

lemma gives_dependencyQueries (hmetrics : g.ruleMetrics name = .ok queries) :
    (g.dependencyQueries name : Act σ (List String)).Gives P queries := by
  intro s hs
  have hsame : Act.Agree (fun s t : σ => s = t ∧ P s) Eq Eq (g.dependencyQueries name)
      (g.dependencyQueries name) :=
    g.agree_addQueries (fun _ => rfl)
      (fun event s t h => ⟨congrArg _ h.1, hrecord event s h.2⟩) name [] _
  exact ⟨by rw [g.dependencyQueries_apply, hmetrics], (hsame s s ⟨rfl, hs⟩).2.2⟩

omit [PromQL.Language] in
/-- Answers are collected one after the other. -/
lemma gives_collectHistory {start : Instant}
    (hanswers : ∀ query ∈ queries,
      (gateway.queryRange query start alignment g.step).Gives P (.matrix (answer query)))
    (htexts : ∀ query ∈ queries, ∀ stream ∈ answer query, ∃ text, stream.key = .ok (.text text))
    (history : Accumulator) :
    ∃ grown, Collected history (queries.flatMap answer) grown ∧
      (g.collectHistory gateway start alignment history queries).Gives P grown := by
  induction queries generalizing history with
  | nil => exact ⟨history, .nil history, .pure history⟩
  | cons query rest ih =>
    rw [List.forall_mem_cons] at hanswers htexts
    obtain ⟨added, middle, hcollect, -, hmiddle⟩ := exists_collect history htexts.1
    obtain ⟨grown, hgrown, hrest⟩ := ih hanswers.2 htexts.2 middle
    refine ⟨grown, hmiddle.append hgrown, hanswers.1.bind ?_⟩
    have htaken : (collect history (answer query)).mapError Fault.shape = .ok (added, middle) := by
      rw [hcollect]
      rfl
    exact (Act.Gives.ofExcept htaken).bind ((Act.Gives.log hrecord _).bind hrest)

omit [PromQL.Language] in
/-- The history over a window whose metrics are answered. -/
lemma gives_history (hstart : (alignment.minus g.lookback).isRepresentable)
    (hanswers : ∀ query ∈ queries,
      (gateway.queryRange query (alignment.minus g.lookback) alignment g.step).Gives P
        (.matrix (answer query)))
    (htexts : ∀ query ∈ queries, ∀ stream ∈ answer query, ∃ text, stream.key = .ok (.text text)) :
    ∃ history, Collected .empty (queries.flatMap answer) history ∧
      (g.history gateway queries alignment).Gives P history := by
  obtain ⟨history, hcollected, hgives⟩ := g.gives_collectHistory hrecord hanswers htexts .empty
  exact ⟨history, hcollected, (Act.Gives.ofExcept (windowStart_eq hstart)).bind hgives⟩

omit hrecord [Log.Journal σ] [PromQL.Language] in
/-- The recorded values are taken from the answer. -/
lemma gives_ownValue {found : QueryResult} {expected : List ExpectedSample}
    (hquery : (gateway.query (g.ownQuery name) now).Gives P found)
    (hfound : g.ownAnswer name found = .ok (expected, alignment)) :
    (g.ownValue gateway name now).Gives P (expected, alignment) := by
  rw [ownValue_eq]
  exact hquery.bind (.ofExcept hfound)

/-- A rule whose queries are answered has a fixture, if there are rows for what is collected. -/
theorem gives_rule {found : QueryResult} {expected : List ExpectedSample}
    (hmetrics : g.ruleMetrics name = .ok queries)
    (hquery : (gateway.query (g.ownQuery name) now).Gives P found)
    (hfound : g.ownAnswer name found = .ok (expected, alignment))
    (hstart : (alignment.minus g.lookback).isRepresentable)
    (hanswers : ∀ query ∈ queries,
      (gateway.queryRange query (alignment.minus g.lookback) alignment g.step).Gives P
        (.matrix (answer query)))
    (htexts : ∀ query ∈ queries, ∀ stream ∈ answer query, ∃ text, stream.key = .ok (.text text)) :
    ∃ history, Collected .empty (queries.flatMap answer) history ∧
      ∀ rows, g.inputRows history alignment = .ok rows →
        (g.rule gateway name now).Gives P
          ⟨g.interval, rows, ⟨name, g.lookback, expected⟩⟩ := by
  obtain ⟨history, hcollected, hhistory⟩ := g.gives_history hrecord hstart hanswers htexts
  refine ⟨history, hcollected, fun rows hrows => ?_⟩
  refine (g.gives_dependencyQueries hrecord hmetrics).bind ?_
  refine (g.gives_ownValue hquery hfound).bind ?_
  refine hhistory.bind ((Act.Gives.log hrecord _).bind ?_)
  exact (Act.Gives.ofExcept hrows).bind (.pure _)

omit hrecord in
/-- Several rules have the fixtures that each of them has. -/
lemma gives_rules {names : List Json} {fixtures : List Fixture}
    (hrules : List.Forall₂ (fun name fixture => (g.rule gateway name now).Gives P fixture) names
      fixtures) : (g.rules gateway now names).Gives P fixtures := by
  induction hrules with
  | nil => exact .pure []
  | cons hrule _ ih => exact hrule.bind (ih.bind (.pure _))

omit hrecord in
/-- So have all that are selected. -/
lemma gives_all {names : List Json} {fixtures : List Fixture} {select : Json → Bool}
    (hnames : RuleCatalog.sortedNames g.catalog.recording = .ok names)
    (hrules : List.Forall₂ (fun name fixture => (g.rule gateway name now).Gives P fixture)
      (names.filter select) fixtures) : (g.all gateway select now).Gives P fixtures := by
  intro s hs
  rw [g.all_apply hnames]
  exact g.gives_rules hrules s hs

end Generator

end RuleFixtures
