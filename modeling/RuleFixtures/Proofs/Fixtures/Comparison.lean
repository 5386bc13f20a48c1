import RuleFixtures.Proofs.Fixtures.InputRows
import RuleFixtures.Proofs.Gateway.Agreement

/-!
Two runs that make fixtures, side by side.

The runs may work with different catalogs and ask different gateways.

* `SampleHistory.Alike` holds of histories with the same samples under the same keys;
  `Generator.inputRows_alike`: they have the same rows.
* `Generator.agree_rule`: two runs make the same fixture of a rule if they agree on its metrics, on
  its recorded values and on the history of the metrics.
* `Generator.agree_rules` and `Generator.agree_all`: and so for several rules, and for all.
-/

namespace RuleFixtures

namespace OrderedMap

variable {α β : Type} [DecidableEq α] {first second : OrderedMap α β}

/-- Maps with the same values have the same keys, up to their order. -/
lemma keys_perm (h : ∀ key, first.get? key = second.get? key) : first.keys.Perm second.keys := by
  refine (List.perm_ext_iff_of_nodup first.nodup second.nodup).2 fun key => ?_
  have hnone := first.get?_eq_none_iff key
  rw [h key, second.get?_eq_none_iff] at hnone
  exact (not_iff_not.1 hnone).symm

lemma size_eq (h : ∀ key, first.get? key = second.get? key) : first.size = second.size := by
  have hlength := (keys_perm h).length_eq
  simpa [keys, size] using hlength

end OrderedMap

/-- Two histories have the same samples under the same keys, and these are texts. -/
structure SampleHistory.Alike (first second : SampleHistory) : Prop where
  texts : ∀ key ∈ first.keys, ∃ text, key = .text text
  get? : ∀ key, first.get? key = second.get? key

lemma SampleHistory.alike_empty : Alike .empty .empty where
  texts _ hkey := absurd hkey List.not_mem_nil
  get? _ := rfl

namespace SampleHistory.Alike

variable {first second : SampleHistory} (h : first.Alike second)

include h

/-- The keys are sorted alike. -/
lemma sortBy_eq : Json.sortBy id first.keys = Json.sortBy id second.keys :=
  Json.sortBy_eq_of_perm h.texts (fun _ _ _ _ => id) (OrderedMap.keys_perm h.get?)

variable (start : Instant) (step : Duration) (slots : ℕ)

lemma assembleRows_eq (keys : List Json) :
    assembleRows first start step slots keys = assembleRows second start step slots keys := by
  induction keys with
  | nil => rfl
  | cons key rest ih => rw [assembleRows, assembleRows, ih, assembleRow, assembleRow, h.get?]

/-- The rows are the same. -/
lemma assemble_eq : assemble first start step slots = assemble second start step slots := by
  rw [assemble, assemble, h.sortBy_eq]
  exact congrArg _ (funext fun keys => h.assembleRows_eq start step slots keys)

end SampleHistory.Alike

namespace Generator

/-- The generator with another catalog. -/
def withCatalog (g : Generator) (catalog : RuleCatalog) : Generator := { g with catalog := catalog }

/-- The recorded values of a rule in an answer, with their alignment. -/
def ownAnswer (g : Generator) (name : Json) (answer : QueryResult) :
    Except Fault (List ExpectedSample × Instant) := do
  let streams ← matrixOf (g.ownQuery name) answer
  match withLast streams with
  | [] => .error (.failure (.noSamples name g.lookback))
  | (stream, sample) :: rest => do
    let expected ← (expectedSamples ((stream, sample) :: rest)).mapError .shape
    return (expected, latest sample (rest.map Prod.snd))

/-- They are taken from the answer to one query. -/
lemma ownValue_eq {σ : Type} (g : Generator) (gateway : Gateway σ) (name : Json) (now : Instant) :
    g.ownValue gateway name now =
      gateway.query (g.ownQuery name) now >>= fun answer =>
        Act.ofExcept (g.ownAnswer name answer) := by
  refine congrArg (gateway.query (g.ownQuery name) now >>= ·) (funext fun answer => ?_)
  funext s
  rw [Act.bind_apply, Act.ofExcept, Act.ofExcept, ownAnswer]
  cases matrixOf (g.ownQuery name) answer with
  | error fault => rfl
  | ok streams =>
    dsimp only [bind, Except.bind]
    cases withLast streams with
    | nil => rfl
    | cons e rest =>
      dsimp only
      cases expectedSamples (e :: rest) <;> rfl

section Catalog

variable {σ : Type} (g : Generator) (catalog : RuleCatalog) (gateway : Gateway σ)

/-- The recorded values, the history and the rows do not depend on the rules that are loaded. -/
lemma ownValue_withCatalog : (g.withCatalog catalog).ownValue gateway = g.ownValue gateway := rfl

lemma collectHistory_withCatalog [Log.Journal σ] (start alignment : Instant)
    (history : Accumulator) (queries : List String) :
    (g.withCatalog catalog).collectHistory gateway start alignment history queries =
      g.collectHistory gateway start alignment history queries := by
  induction queries generalizing history with
  | nil => rfl
  | cons query rest ih =>
    simp only [collectHistory, ih]
    rfl

lemma history_withCatalog [Log.Journal σ] :
    (g.withCatalog catalog).history gateway = g.history gateway := by
  funext queries alignment
  simp only [history, collectHistory_withCatalog]
  rfl

lemma inputRows_withCatalog : (g.withCatalog catalog).inputRows = g.inputRows := rfl

end Catalog

/-- What is collected from histories that are alike is alike, if the first series of every key have
the same samples. -/
lemma Collected.alike {history other grown second : Accumulator} {streams others : List Stream}
    (hgrown : Collected history streams grown) (hsecond : Collected other others second)
    (halike : history.Alike other)
    (htexts : ∀ stream ∈ streams, ∃ text, stream.key = .ok (.text text))
    (hsame : ∀ key, (firstWith key streams).map Stream.samples =
      (firstWith key others).map Stream.samples) : SampleHistory.Alike grown second where
  texts key hkey := by
    by_cases hknown : key ∈ history.keys
    · exact halike.texts key hknown
    · have hfirst : firstWith key streams ≠ none := by
        intro hnone
        refine absurd hkey ((OrderedMap.get?_eq_none_iff grown key).1 ?_)
        rw [hgrown, (history.get?_eq_none_iff key).2 hknown, hnone]
        rfl
      obtain ⟨stream, hfound⟩ := Option.ne_none_iff_exists'.1 hfirst
      obtain ⟨text, htext⟩ := htexts stream (mem_of_firstWith hfound)
      rw [key_of_firstWith hfound] at htext
      exact ⟨text, Except.ok.inj htext⟩
  get? key := by rw [hgrown, hsecond, halike.get?, hsame]

section Agree

variable {σ τ : Type} [Log.Journal σ] [Log.Journal τ] {R : σ → τ → Prop}
  {E : Fault → Fault → Prop} (g : Generator) (catalog : RuleCatalog) {first : Gateway σ}
  {second : Gateway τ} {now : Instant}

omit [Log.Journal σ] [Log.Journal τ] in
/-- The recorded values agree if the answers give the same. -/
lemma agree_ownValue_of_query {A : QueryResult → QueryResult → Prop} {name : Json}
    (hquery : Act.Agree R E A (first.query (g.ownQuery name) now)
      (second.query (g.ownQuery name) now))
    (hanswer : ∀ answer other, A answer other →
      ResultsAgree E Eq (g.ownAnswer name answer) (g.ownAnswer name other)) :
    Act.Agree R E Eq (g.ownValue first name now) (g.ownValue second name now) := by
  rw [ownValue_eq, ownValue_eq]
  exact hquery.bind fun answer other h => .ofExcept (hanswer answer other h)

/-- Histories that are alike have the same rows. -/
lemma inputRows_alike {history other : Accumulator} (h : history.Alike other)
    (alignment : Instant) : g.inputRows history alignment = g.inputRows other alignment := by
  rw [inputRows, inputRows]
  simp only [h.assemble_eq]

variable [PromQL.Language]

/-- Two runs make the same fixture of a rule if the recorded values are the same, and the histories
of the metrics have the same rows. -/
theorem agree_rule_of_rows {P : List String → List String → Prop}
    {H : Accumulator → Accumulator → Prop} (hE : ∀ fault, E fault fault)
    (hrecord : ∀ event s t, R s t → R (Log.Journal.record event s) (Log.Journal.record event t))
    {name : Json}
    (hqueries : Act.Agree R E P (g.dependencyQueries name)
      ((g.withCatalog catalog).dependencyQueries name))
    (hlength : ∀ queries others, P queries others → queries.length = others.length)
    (hown : Act.Agree R E Eq (g.ownValue first name now) (g.ownValue second name now))
    (hhistory : ∀ queries others alignment, P queries others →
      Act.Agree R E H (g.history first queries alignment) (g.history second others alignment))
    (hsize : ∀ history other, H history other → history.size = other.size)
    (hrows : ∀ history other, H history other → g.inputRows history = g.inputRows other) :
    Act.Agree R E Eq (g.rule first name now) ((g.withCatalog catalog).rule second name now) := by
  refine hqueries.bind fun queries others hmetrics => ?_
  rw [ownValue_withCatalog, history_withCatalog, inputRows_withCatalog]
  refine hown.bind fun own _ hsame => ?_
  subst hsame
  obtain ⟨expected, alignment⟩ := own
  refine (hhistory queries others alignment hmetrics).bind fun history other hother => ?_
  have hrowsAgree : ResultsAgree E Eq (g.inputRows history alignment)
      (g.inputRows other alignment) := by
    rw [hrows history other hother]
    exact .refl hE _
  rw [hlength _ _ hmetrics, hsize history other hother]
  refine (Act.Agree.log (hrecord _)).bind fun _ _ _ => ?_
  refine (Act.Agree.ofExcept hrowsAgree).bind fun rows _ hsame => ?_
  subst hsame
  exact .pure rfl

/-- In particular if the histories are alike. -/
theorem agree_rule {P : List String → List String → Prop} (hE : ∀ fault, E fault fault)
    (hrecord : ∀ event s t, R s t → R (Log.Journal.record event s) (Log.Journal.record event t))
    {name : Json}
    (hqueries : Act.Agree R E P (g.dependencyQueries name)
      ((g.withCatalog catalog).dependencyQueries name))
    (hlength : ∀ queries others, P queries others → queries.length = others.length)
    (hown : Act.Agree R E Eq (g.ownValue first name now) (g.ownValue second name now))
    (hhistory : ∀ queries others alignment, P queries others →
      Act.Agree R E SampleHistory.Alike (g.history first queries alignment)
        (g.history second others alignment)) :
    Act.Agree R E Eq (g.rule first name now) ((g.withCatalog catalog).rule second name now) :=
  g.agree_rule_of_rows catalog hE hrecord hqueries hlength hown hhistory
    (fun _ _ h => OrderedMap.size_eq h.get?) fun _ _ h => funext (g.inputRows_alike h)

/-- And so for several rules. -/
theorem agree_rules {names : List Json}
    (hrule : ∀ name ∈ names,
      Act.Agree R E Eq (g.rule first name now) ((g.withCatalog catalog).rule second name now)) :
    Act.Agree R E Eq (g.rules first now names)
      ((g.withCatalog catalog).rules second now names) := by
  induction names with
  | nil => exact .pure rfl
  | cons name rest ih =>
    rw [List.forall_mem_cons] at hrule
    refine hrule.1.bind fun fixture _ hsame => ?_
    subst hsame
    exact (ih hrule.2).map fun fixtures _ hsame => by rw [hsame]

/-- And for all, if the names of the rules are sorted alike. -/
theorem agree_all (hE : ∀ fault, E fault fault) (select : Json → Bool)
    (hnames : RuleCatalog.sortedNames g.catalog.recording =
      RuleCatalog.sortedNames catalog.recording)
    (hrule : ∀ name,
      Act.Agree R E Eq (g.rule first name now) ((g.withCatalog catalog).rule second name now)) :
    Act.Agree R E Eq (g.all first select now) ((g.withCatalog catalog).all second select now) := by
  have hsorted : ResultsAgree E Eq
      ((RuleCatalog.sortedNames g.catalog.recording).mapError Fault.shape)
      ((RuleCatalog.sortedNames catalog.recording).mapError Fault.shape) := by
    rw [hnames]
    exact .refl hE _
  refine (Act.Agree.ofExcept hsorted).bind fun names _ hsame => ?_
  subst hsame
  exact g.agree_rules catalog fun name _ => hrule name

end Agree

end Generator

end RuleFixtures
