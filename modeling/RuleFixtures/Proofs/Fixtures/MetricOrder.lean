import Mathlib.Data.List.TakeWhile
import RuleFixtures.Proofs.Fixtures.Comparison
import RuleFixtures.Proofs.PromQL.Names

/-!
The order of the queries for a window does not matter to its history.

Of a backend that answers each query as a function of what is asked, with series named as the metric
that is queried.

* `name_eq_of_key_eq`: series of different names have different keys.
* `firstWith_flatMap_perm`: so it does not matter which of several answers comes first.
* `IsUsable` holds of the answers that are collected; `Generator.exists_collectHistory` and
  `Generator.collectHistory_eq_error`: there is a history exactly if all answers are such.
* `Generator.agree_history_of_perm`: metrics in another order have a history that is alike.
-/

namespace RuleFixtures

/-! ### Keys of named series -/

/-- The key of a series with a name is a text that starts with the name. -/
lemma Labels.exists_key_of_name {labels : Labels} {name : String} {key : Json}
    (hname : labels.get? nameLabel = some (.text name)) (hkey : labels.key = .ok key) :
    ∃ text, key = .text text ∧
      (PromQL.Token.IsName name → text.toList.takeWhile (· ≠ '\x7b') = name.toList) := by
  have hplain : PromQL.Token.IsName name → ∀ c ∈ name.toList, c ≠ '\x7b' := by
    rintro hword c hc rfl
    exact absurd (hword.2 _ hc) (by decide)
  rw [Labels.key, hname, Option.getD_some] at hkey
  cases hpairs : pairTexts labels.entries with
  | error fault =>
    rw [hpairs] at hkey
    cases hkey
  | ok pairs =>
    rw [hpairs] at hkey
    dsimp only [bind, Except.bind] at hkey
    split at hkey
    · cases hkey
      -- without other labels the key is the name alone
      by_cases hempty : name = ""
      · subst hempty
        exact ⟨_, rfl, fun hword => absurd rfl hword.1⟩
      · refine ⟨name, by simp [Json.isTruthy, hempty], fun hword => ?_⟩
        exact List.takeWhile_eq_self_iff.2 fun c hc => by simpa using hplain hword c hc
    · cases hkey
      refine ⟨_, rfl, fun hword => ?_⟩
      rw [Json.display]
      simp only [String.toList_append, List.append_assoc]
      rw [List.takeWhile_append_of_pos fun c hc => by simpa using hplain hword c hc]
      exact List.append_nil _

/-- Series with one key have one name. -/
lemma name_eq_of_key_eq {stream other : Stream} {name word : String} {key : Json}
    (hname : stream.labels.get? Labels.nameLabel = some (.text name))
    (hword : other.labels.get? Labels.nameLabel = some (.text word))
    (hfirst : PromQL.IsMetricName name) (hsecond : PromQL.IsMetricName word)
    (hkey : stream.key = .ok key) (hother : other.key = .ok key) : name = word := by
  obtain ⟨text, rfl, hstart⟩ := Labels.exists_key_of_name hname hkey
  obtain ⟨_, hsame, hstart'⟩ := Labels.exists_key_of_name hword hother
  obtain rfl := Json.text.inj hsame
  exact String.toList_inj.1 ((hstart hfirst.isName).symm.trans (hstart' hsecond.isName))

/-! ### The first series of a key -/

/-- Several answers are searched one after the other. -/
lemma firstWith_flatMap (key : Json) (answer : String → List Stream) (queries : List String) :
    firstWith key (queries.flatMap answer) =
      queries.findSome? fun query => firstWith key (answer query) :=
  List.find?_flatMap ..

/-- If series in different answers have different keys, the order of the answers does not matter. -/
lemma firstWith_flatMap_perm {answer : String → List Stream} {queries others : List String}
    (hperm : queries.Perm others) (key : Json)
    (hunique : ∀ query ∈ queries, ∀ other ∈ queries, ∀ stream found,
      firstWith key (answer query) = some stream → firstWith key (answer other) = some found →
      query = other) :
    firstWith key (queries.flatMap answer) = firstWith key (others.flatMap answer) := by
  have hiff (others : List String) (hperm : queries.Perm others) (stream : Stream) :
      firstWith key (others.flatMap answer) = some stream ↔
        ∃ query ∈ others, firstWith key (answer query) = some stream := by
    rw [firstWith_flatMap]
    constructor
    · exact List.exists_of_findSome?_eq_some
    · rintro ⟨query, hquery, hfound⟩
      obtain ⟨found, hsome⟩ := Option.isSome_iff_exists.1
        ((List.findSome?_isSome_iff (f := fun query => firstWith key (answer query))).2
          ⟨query, hquery, by rw [hfound]; rfl⟩)
      obtain ⟨other, hother, hfirst⟩ := List.exists_of_findSome?_eq_some hsome
      obtain rfl := hunique query (hperm.symm.subset hquery) other (hperm.symm.subset hother) _ _
        hfound hfirst
      rw [hsome, ← hfirst, hfound]
  refine Option.ext fun stream => ?_
  rw [hiff queries (.refl _), hiff others hperm]
  exact exists_congr fun query => and_congr_left fun _ => hperm.mem_iff

/-! ### Collecting the answers -/

/-- A result with a series whose key is a fault is not collected. -/
lemma Accumulator.addStreams_cases (history : Accumulator) {streams : List Stream}
    (htexts : ∀ stream ∈ streams, ∀ key, stream.key = .ok key → ∃ text, key = .text text) :
    (∀ stream ∈ streams, ∃ text, stream.key = .ok (.text text)) ∨
      ∃ fault, (addStreams history streams).1 = .error fault := by
  induction streams generalizing history with
  | nil => exact .inl (by simp)
  | cons stream rest ih =>
    rw [List.forall_mem_cons] at htexts
    rw [addStreams]
    cases hkey : stream.key with
    | error fault => exact .inr ⟨fault, rfl⟩
    | ok key =>
      obtain ⟨text, rfl⟩ := htexts.1 key hkey
      rcases ih (history.offer (.text text) stream.samples).2 htexts.2 with hrest | ⟨fault, hfault⟩
      · exact .inl (List.forall_mem_cons.2 ⟨⟨text, hkey⟩, hrest⟩)
      · refine .inr ⟨fault, ?_⟩
        dsimp only [Except.bind, add, Json.checkHashable, bind, pure, Except.pure]
        rw [hfault]
        rfl

/-- A backend that answers what it is asked as functions of the question, whatever its state. -/
structure Gateway.Answers {σ : Type} (gateway : Gateway σ)
    (instant : String → Instant → Except Fault QueryResult)
    (range : String → Instant → Instant → Duration → Except Fault QueryResult) : Prop where
  query : ∀ expr time s, (gateway.query expr time s).1 = instant expr time
  queryRange : ∀ expr start finish step s,
    (gateway.queryRange expr start finish step s).1 = range expr start finish step

/-- The series of an answer; an answer that is no matrix has none. -/
def streamsOf : Except Fault QueryResult → List Stream
  | .ok (.matrix streams) => streams
  | _ => []

lemma forall_mem_streamsOf {p : Stream → Prop} {answer : Except Fault QueryResult}
    (h : ∀ streams, answer = .ok (.matrix streams) → ∀ stream ∈ streams, p stream) :
    ∀ stream ∈ streamsOf answer, p stream := by
  intro stream hstream
  match answer with
  | .ok (.matrix streams) => exact h streams rfl stream hstream
  | .ok (.scalar _) | .ok (.string _ _) | .ok (.vector _) | .error _ => cases hstream

/-- There is an answer, and its series have texts as keys. -/
def IsUsable (answer : Except Fault QueryResult) : Prop :=
  answer.isOk = true ∧ ∀ stream ∈ streamsOf answer, ∃ text, stream.key = .ok (.text text)

namespace Generator

variable {σ : Type} [Log.Journal σ] {gateway : Gateway σ}
  {instant : String → Instant → Except Fault QueryResult}
  {range : String → Instant → Instant → Duration → Except Fault QueryResult}
  (hanswers : gateway.Answers instant range) (g : Generator) {start alignment : Instant}

include hanswers

/-- An answer that can be used is collected before the others. -/
lemma collectHistory_cons_of_isUsable {query : String}
    (husable : IsUsable (range query start alignment g.step)) (history : Accumulator)
    (rest : List String) (s : σ) :
    ∃ grown next, Collected history (streamsOf (range query start alignment g.step)) grown ∧
      (g.collectHistory gateway start alignment history (query :: rest) s).1 =
        (g.collectHistory gateway start alignment grown rest next).1 := by
  have hanswer := hanswers.queryRange query start alignment g.step s
  obtain ⟨hok, htexts⟩ := husable
  cases hrange : range query start alignment g.step with
  | error fault =>
    rw [hrange] at hok
    cases hok
  | ok answer =>
    rw [hrange] at hanswer htexts
    rw [collectHistory, Act.fst_bind_of_ok hanswer]
    generalize (gateway.queryRange query start alignment g.step s).2 = next
    cases answer with
    | matrix streams =>
      replace htexts : ∀ stream ∈ streams, ∃ text, stream.key = .ok (.text text) := htexts
      obtain ⟨added, grown, hgrown, _, hcollected⟩ := exists_collect history htexts
      have hadded : (Act.ofExcept ((collect history streams).mapError Fault.shape) next).1 =
          .ok (added, grown) := by
        rw [hgrown]
        rfl
      refine ⟨grown, Log.Journal.record (.dependencyFetched query added) next, hcollected, ?_⟩
      exact Act.fst_bind_of_ok hadded
    | _ => exact ⟨history, Log.Journal.record (.resultSkipped query _) next, .nil history, rfl⟩

/-- An answer that cannot be used ends the run. -/
lemma collectHistory_cons_of_not_isUsable {query : String}
    (hkeys : ∀ stream ∈ streamsOf (range query start alignment g.step), ∀ key,
      stream.key = .ok key → ∃ text, key = .text text)
    (husable : ¬ IsUsable (range query start alignment g.step)) (history : Accumulator)
    (rest : List String) (s : σ) :
    ∃ fault, (g.collectHistory gateway start alignment history (query :: rest) s).1 =
      .error fault := by
  have hanswer := hanswers.queryRange query start alignment g.step s
  cases hrange : range query start alignment g.step with
  | error fault =>
    rw [hrange] at hanswer
    exact ⟨fault, Act.fst_bind_of_error hanswer⟩
  | ok answer =>
    rw [hrange] at hanswer hkeys husable
    rw [collectHistory, Act.fst_bind_of_ok hanswer]
    generalize (gateway.queryRange query start alignment g.step s).2 = next
    cases answer with
    | matrix streams =>
      -- either all keys are texts, or one of them cannot be written and taking it up fails
      have hcases : (∀ stream ∈ streams, ∃ text, stream.key = .ok (.text text)) ∨
          ∃ fault, (Accumulator.addStreams history streams).1 = .error fault :=
        Accumulator.addStreams_cases history hkeys
      rcases hcases with htexts | ⟨fault, hfault⟩
      · exact absurd ⟨rfl, htexts⟩ husable
      · have hcollect : (Act.ofExcept ((collect history streams).mapError Fault.shape) next).1 =
            .error (.shape fault) := by
          simp only [collect, hfault]
          rfl
        exact ⟨.shape fault, Act.fst_bind_of_error hcollect⟩
    | _ => exact absurd ⟨rfl, fun _ h => absurd h List.not_mem_nil⟩ husable

/-- If all answers can be used, their series are collected one after the other. -/
theorem exists_collectHistory {queries : List String}
    (husable : ∀ query ∈ queries, IsUsable (range query start alignment g.step))
    (history : Accumulator) (s : σ) :
    ∃ grown, (g.collectHistory gateway start alignment history queries s).1 = .ok grown ∧
      Collected history
        (queries.flatMap fun query => streamsOf (range query start alignment g.step)) grown := by
  induction queries generalizing history s with
  | nil => exact ⟨history, rfl, .nil history⟩
  | cons query rest ih =>
    rw [List.forall_mem_cons] at husable
    obtain ⟨grown, next, hfirst, hrun⟩ :=
      g.collectHistory_cons_of_isUsable hanswers husable.1 history rest s
    obtain ⟨final, hrest, hcollected⟩ := ih husable.2 grown next
    rw [List.flatMap_cons]
    exact ⟨final, hrun.trans hrest, hfirst.append hcollected⟩

/-- If an answer cannot be used, there is no history. -/
theorem collectHistory_eq_error {queries : List String}
    (hkeys : ∀ query ∈ queries, ∀ stream ∈ streamsOf (range query start alignment g.step),
      ∀ key, stream.key = .ok key → ∃ text, key = .text text)
    (hunusable : ∃ query ∈ queries, ¬ IsUsable (range query start alignment g.step))
    (history : Accumulator) (s : σ) :
    ∃ fault, (g.collectHistory gateway start alignment history queries s).1 = .error fault := by
  induction queries generalizing history s with
  | nil => simp at hunusable
  | cons query rest ih =>
    rw [List.forall_mem_cons] at hkeys
    by_cases hfirst : IsUsable (range query start alignment g.step)
    · obtain ⟨grown, next, _, hrun⟩ :=
        g.collectHistory_cons_of_isUsable hanswers hfirst history rest s
      rw [List.exists_mem_cons_iff] at hunusable
      rw [hrun]
      exact ih hkeys.2 (hunusable.resolve_left fun hno => hno hfirst) grown next
    · exact g.collectHistory_cons_of_not_isUsable hanswers hkeys.1 hfirst history rest s

/-- The metrics may be queried in any order. -/
theorem agree_history_of_perm
    (hnamed : ∀ metric, PromQL.IsMetricName metric → ∀ start finish step streams,
      range metric start finish step = .ok (.matrix streams) →
      ∀ stream ∈ streams, stream.labels.get? Labels.nameLabel = some (.text metric))
    {queries others : List String} (hperm : queries.Perm others)
    (hmetrics : ∀ query ∈ queries, PromQL.IsMetricName query) (alignment : Instant) :
    Act.Agree (fun _ _ => True) (fun _ _ => True) SampleHistory.Alike
      (g.history gateway queries alignment) (g.history gateway others alignment) := by
  have hname {query : String} (hquery : query ∈ queries) (start : Instant) :
      ∀ stream ∈ streamsOf (range query start alignment g.step),
        stream.labels.get? Labels.nameLabel = some (.text query) :=
    forall_mem_streamsOf (hnamed query (hmetrics query hquery) start alignment g.step)
  -- a series that carries its name has a key that is a text
  have hkeys {query : String} (hquery : query ∈ queries) (start : Instant) :
      ∀ stream ∈ streamsOf (range query start alignment g.step), ∀ key,
        stream.key = .ok key → ∃ text, key = .text text := by
    intro stream hstream key hkey
    obtain ⟨text, htext, _⟩ := Labels.exists_key_of_name (hname hquery start stream hstream) hkey
    exact ⟨text, htext⟩
  refine (Act.Agree.ofExcept (.refl (fun _ => trivial) _)).bind fun start _ hsame => ?_
  subst hsame
  intro s t _
  refine ⟨?_, trivial⟩
  -- either all answers can be used, in any order, or one of them stops both runs
  by_cases husable : ∀ query ∈ queries, IsUsable (range query start alignment g.step)
  · obtain ⟨history, hfirst, hcollected⟩ := g.exists_collectHistory hanswers husable .empty s
    obtain ⟨other, hsecond, hother⟩ := g.exists_collectHistory hanswers
      (fun query hquery => husable query (hperm.symm.subset hquery)) .empty t
    rw [hfirst, hsecond]
    refine .values (hcollected.alike hother SampleHistory.alike_empty ?_ fun key => ?_)
    · exact List.forall_mem_flatMap.2 fun query hquery => (husable query hquery).2
    · rw [firstWith_flatMap_perm hperm key]
      -- series of different metrics have different keys, so no offer meets one of another metric
      intro query hquery other hother stream found hstream hfound
      exact name_eq_of_key_eq (hname hquery start _ (mem_of_firstWith hstream))
        (hname hother start _ (mem_of_firstWith hfound)) (hmetrics query hquery)
        (hmetrics other hother) (key_of_firstWith hstream) (key_of_firstWith hfound)
  · have hno : ∃ query ∈ queries, ¬ IsUsable (range query start alignment g.step) := by
      simpa using husable
    have hnoOther : ∃ query ∈ others, ¬ IsUsable (range query start alignment g.step) := by
      obtain ⟨query, hquery, hunusable⟩ := hno
      exact ⟨query, hperm.subset hquery, hunusable⟩
    obtain ⟨fault, hfault⟩ :=
      g.collectHistory_eq_error hanswers (fun query hquery => hkeys hquery start) hno .empty s
    obtain ⟨other, hother⟩ :=
      g.collectHistory_eq_error hanswers
        (fun query hquery => hkeys (hperm.symm.subset hquery) start) hnoOther .empty t
    rw [hfault, hother]
    exact .faults trivial

end Generator

end RuleFixtures
