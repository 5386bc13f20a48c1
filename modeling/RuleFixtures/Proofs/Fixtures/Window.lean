import RuleFixtures.Fixtures.Generator
import RuleFixtures.Proofs.Fixtures.Accumulator
import RuleFixtures.Proofs.Gateway.Exchange
import RuleFixtures.Proofs.Json.Order

/-!
The calls for the history of metrics.

* `Window` describes the calls: one per metric, in order, up to the first that is not answered.
* `Generator.runs_collectHistory`: going through metrics makes these calls and collects the first
  series of every key.
* `Generator.runs_history`: so does the history over a window that starts in the calendar.
-/

namespace RuleFixtures

/-- Metrics are queried over a window one after the other. The first fault ends the calls and is
the result. -/
inductive Window {α : Type} (start finish : Instant) (step : Duration) :
    List String → List Exchange → Except Fault α → Prop where
  | done (a : α) : Window start finish step [] [] (.ok a)
  | stops (metric : String) (rest : List String) (fault : Fault) :
    Window start finish step (metric :: rest) [.askedRange metric start finish step (.error fault)]
      (.error fault)
  | goesOn (metric : String) (answer : QueryResult) {rest : List String} {calls : List Exchange}
    {result : Except Fault α} (h : Window start finish step rest calls result) :
    Window start finish step (metric :: rest)
      (.askedRange metric start finish step (.ok answer) :: calls) result

/-- Is the call answered? -/
def Exchange.isAnswered : Exchange → Bool
  | .listed answer => answer.isOk
  | .asked _ _ answer => answer.isOk
  | .askedRange _ _ _ _ answer => answer.isOk

/-- If every call is answered there is a result. -/
lemma Window.exists_ok {α : Type} {start finish : Instant} {step : Duration} {metrics : List String}
    {calls : List Exchange} {result : Except Fault α}
    (h : Window start finish step metrics calls result)
    (hanswered : ∀ call ∈ calls, call.isAnswered) : ∃ a, result = .ok a := by
  induction h with
  | done a => exact ⟨a, rfl⟩
  | stops metric rest fault =>
    have hfault := hanswered _ (List.mem_singleton_self _)
    cases hfault
  | goesOn metric answer _ ih =>
    exact ih fun call hcall => hanswered call (List.mem_cons_of_mem _ hcall)

namespace Generator

variable {σ : Type} [Log.Journal σ] (g : Generator) (gateway : Gateway σ)

/-- The samples of every key are those it had, or those of its first series. -/
def Collected (history : Accumulator) (streams : List Stream) (grown : Accumulator) : Prop :=
  ∀ key, grown.get? key = (history.get? key).or ((firstWith key streams).map Stream.samples)

lemma Collected.nil (history : Accumulator) : Collected history [] history := fun key => by
  rw [firstWith, List.find?_nil, Option.map_none, Option.or_none]

lemma Collected.append {history middle grown : Accumulator} {first second : List Stream}
    (hfirst : Collected history first middle) (hsecond : Collected middle second grown) :
    Collected history (first ++ second) grown := fun key => by
  rw [hsecond, hfirst, Option.or_assoc, firstWith_append, Option.map_or]

/-- The keys that are collected from nothing are those of the series. -/
lemma Collected.mem_keys_iff {streams : List Stream} {grown : Accumulator}
    (h : Collected .empty streams grown) {key : Json} :
    key ∈ grown.keys ↔ ∃ stream ∈ streams, stream.key = .ok key := by
  have hget : grown.get? key = (firstWith key streams).map Stream.samples := by
    rw [h key]
    rfl
  rw [← not_iff_not, ← OrderedMap.get?_eq_none_iff, hget, Option.map_eq_none_iff, firstWith,
    List.find?_eq_none]
  simp only [Stream.hasKey_iff, not_exists, not_and]

/-- If the labels of the series are texts, so are the keys. -/
lemma Collected.exists_texts {streams : List Stream} {grown : Accumulator}
    (h : Collected .empty streams grown) (htexts : ∀ stream ∈ streams, stream.labels.AreTexts) :
    ∃ texts : List String, grown.keys = texts.map .text := by
  refine Json.exists_texts fun key hkey => ?_
  obtain ⟨stream, hstream, hkey⟩ := h.mem_keys_iff.1 hkey
  obtain ⟨text, htext⟩ := (htexts stream hstream).exists_key
  rw [Stream.key, htext] at hkey
  exact ⟨text, (Except.ok.inj hkey).symm⟩

/-- Series with texts as keys are collected, and the new ones are counted. -/
lemma exists_collect (history : Accumulator) {streams : List Stream}
    (htexts : ∀ stream ∈ streams, ∃ text, stream.key = .ok (.text text)) :
    ∃ added grown, collect history streams = .ok (added, grown) ∧
      OrderedMap.size grown = history.size + added ∧ Collected history streams grown := by
  obtain ⟨added, grown, hadd, hsize, hget⟩ := Accumulator.exists_addStreams history htexts
  refine ⟨added, grown, ?_, hsize, hget⟩
  rw [collect, hadd]
  rfl

/-- An answered call comes before the calls for the other metrics. -/
lemma collected_goesOn {start alignment : Instant} {step : Duration} {query : String}
    {answer : QueryResult} {rest : List String} {history middle : Accumulator}
    {calls : List Exchange} {result : Except Fault Accumulator}
    (hanswer : (Exchange.askedRange query start alignment step (.ok answer)).TextLabelled →
      Collected history
        (Exchange.askedRange query start alignment step (.ok answer)).streams middle)
    (hrest : (∀ call ∈ calls, call.TextLabelled) →
      Window start alignment step rest calls result ∧
        ∀ grown, result = .ok grown → Collected middle (calls.flatMap Exchange.streams) grown) :
    (∀ call ∈ .askedRange query start alignment step (.ok answer) :: calls, call.TextLabelled) →
      Window start alignment step (query :: rest)
          (.askedRange query start alignment step (.ok answer) :: calls) result ∧
        ∀ grown, result = .ok grown →
          Collected history
            ((.askedRange query start alignment step (.ok answer) :: calls).flatMap
              Exchange.streams) grown := by
  intro htexts
  rw [List.forall_mem_cons] at htexts
  obtain ⟨hwindow, hgrown⟩ := hrest htexts.2
  refine ⟨.goesOn query answer hwindow, fun grown hresult => ?_⟩
  rw [List.flatMap_cons]
  exact (hanswer htexts.1).append (hgrown grown hresult)

/-- The metrics are queried one after the other, and the first series of every key is kept. -/
theorem runs_collectHistory (start alignment : Instant) (queries : List String)
    (history : Accumulator) (s : σ) :
    ∃ calls result final,
      Act.Runs gateway (g.collectHistory gateway.recorded start alignment history queries)
        (g.collectHistory gateway start alignment history queries) s calls result final ∧
      ((∀ call ∈ calls, call.TextLabelled) →
        Window start alignment g.step queries calls result ∧
        ∀ grown, result = .ok grown →
          Collected history (calls.flatMap Exchange.streams) grown) := by
  induction queries generalizing history s with
  | nil =>
    refine ⟨[], .ok history, s, .pure history s, fun _ => ⟨.done history, ?_⟩⟩
    rintro _ ⟨⟩
    exact .nil history
  | cons query rest ih =>
    have hquery : Act.Runs gateway _ _ s _ _ _ :=
      Act.Runs.queryRange query start alignment g.step s
    rcases hanswer : (gateway.queryRange query start alignment g.step s).1 with fault | answer
    · rw [hanswer] at hquery
      refine ⟨_, _, _, hquery.bind_error, fun _ => ⟨.stops query rest fault, ?_⟩⟩
      rintro _ ⟨⟩
    rw [hanswer] at hquery
    generalize (gateway.queryRange query start alignment g.step s).2 = middle at hquery
    have hskip := ih history (Log.Journal.record (.resultSkipped query answer.kind) middle)
    cases answer with
    | matrix streams =>
      rcases hcollect : collect history streams with fault | ⟨added, grown⟩
      -- a key that cannot be written stops the run, which labels that are texts rule out
      · have hstop : (collect history streams).mapError Fault.shape = .error (.shape fault) := by
          rw [hcollect]
          rfl
        refine ⟨_, _, _, hquery.bind (.bind_error (.ofExcept hstop _)), fun htexts => ?_⟩
        have hstreams : ∀ stream ∈ streams, stream.labels.AreTexts :=
          htexts _ (List.mem_singleton_self _)
        obtain ⟨added, grown, hgrown, _⟩ := exists_collect history fun stream hstream =>
          (hstreams stream hstream).exists_key
        rw [hcollect] at hgrown
        cases hgrown
      -- the streams are taken in, and the other metrics go on from the grown history
      · have htake : (collect history streams).mapError Fault.shape = .ok (added, grown) := by
          rw [hcollect]
          rfl
        obtain ⟨calls, result, final, hruns, hspec⟩ :=
          ih grown (Log.Journal.record (.dependencyFetched query added) middle)
        refine ⟨_, _, _, hquery.bind (.bind_silent (.ofExcept htake _)
          (.bind_silent (.log _ _) hruns)), collected_goesOn (fun htexts => ?_) hspec⟩
        have hstreams : ∀ stream ∈ streams, stream.labels.AreTexts := htexts
        obtain ⟨_, _, hgrown, _, hcollected⟩ := exists_collect history fun stream hstream =>
          (hstreams stream hstream).exists_key
        rw [hcollect] at hgrown
        cases hgrown
        exact hcollected
    | _ =>
      -- an answer that is no matrix is logged, and the history stays
      obtain ⟨calls, result, final, hruns, hspec⟩ := hskip
      exact ⟨_, _, _, hquery.bind (.bind_silent (.log _ _) hruns),
        collected_goesOn (fun _ => .nil history) hspec⟩

/-- A window may start in the calendar only. -/
lemma windowStart_eq {alignment : Instant} {lookback : Duration}
    (hstart : (alignment.minus lookback).isRepresentable) :
    (windowStart alignment lookback).mapError Fault.range = .ok (alignment.minus lookback) := by
  simp only [windowStart, hstart]
  rfl

lemma windowStart_eq_error {alignment : Instant} {lookback : Duration}
    (hstart : ¬ (alignment.minus lookback).isRepresentable) :
    (windowStart alignment lookback).mapError Fault.range = .error (.range .date) := by
  simp only [windowStart, hstart]
  rfl

/-- The history over a window asks for every metric over the window. -/
theorem runs_history (queries : List String) {alignment : Instant}
    (hstart : (alignment.minus g.lookback).isRepresentable) (s : σ) :
    ∃ calls result final,
      Act.Runs gateway (g.history gateway.recorded queries alignment)
        (g.history gateway queries alignment) s calls result final ∧
      ((∀ call ∈ calls, call.TextLabelled) →
        Window (alignment.minus g.lookback) alignment g.step queries calls result ∧
        ∀ grown, result = .ok grown →
          Collected .empty (calls.flatMap Exchange.streams) grown) := by
  obtain ⟨calls, result, final, hruns, hspec⟩ :=
    g.runs_collectHistory gateway (alignment.minus g.lookback) alignment queries .empty s
  exact ⟨calls, result, final, .bind_silent (.ofExcept (windowStart_eq hstart) s) hruns, hspec⟩

/-- Nothing is asked over a window that would start before the calendar. -/
lemma runs_history_error (queries : List String) {alignment : Instant}
    (hstart : ¬ (alignment.minus g.lookback).isRepresentable) (s : σ) :
    Act.Runs gateway (g.history gateway.recorded queries alignment)
      (g.history gateway queries alignment) s [] (.error (.range .date)) s :=
  .bind_error (.ofExcept (windowStart_eq_error hstart) s)

end Generator

end RuleFixtures
