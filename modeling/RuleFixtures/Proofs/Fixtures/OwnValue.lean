import RuleFixtures.Fixtures.Generator
import RuleFixtures.Proofs.Gateway.Exchange
import RuleFixtures.Proofs.Json.Order

/-!
The recorded values of a rule.

* `IsAlignment` holds of the latest instant at which a series has its last sample.
* `Generator.isAlignment_latest`: the window ends there.
* `Generator.exists_expectedSamples`: series with texts as labels give expected samples.
* `OwnValueRun` describes the one call for the recorded values, `Generator.runs_ownValue` is its
  run.
-/

namespace RuleFixtures

/-- Instants of which neither is later are the same. -/
lemma Instant.eq_of_le_of_ge {a b : Instant} (hle : a.micros ≤ b.micros)
    (hge : b.micros ≤ a.micros) : a = b := by
  cases a
  cases b
  exact congrArg mk (le_antisymm hle hge)

/-- The latest instant at which a series has its last sample. -/
def IsAlignment (streams : List Stream) (alignment : Instant) : Prop :=
  (∃ stream ∈ streams, ∃ sample, stream.last? = some sample ∧ sample.time = alignment) ∧
    ∀ stream ∈ streams, ∀ sample, stream.last? = some sample →
      sample.time.micros ≤ alignment.micros

namespace Generator

/-! ### The alignment -/

lemma mem_withLast {streams : List Stream} {stream : Stream} {sample : Sample} :
    (stream, sample) ∈ withLast streams ↔ stream ∈ streams ∧ stream.last? = some sample := by
  unfold withLast
  rw [List.mem_filterMap]
  constructor
  · rintro ⟨other, hother, hsome⟩
    obtain ⟨last, hlast, heq⟩ := Option.map_eq_some_iff.1 hsome
    obtain ⟨rfl, rfl⟩ := Prod.mk.inj heq
    exact ⟨hother, hlast⟩
  · rintro ⟨hstream, hlast⟩
    exact ⟨stream, hstream, by rw [hlast, Option.map_some]⟩

/-- Without samples no series has a last one. -/
lemma withLast_eq_nil_iff {streams : List Stream} :
    withLast streams = [] ↔ ∀ stream ∈ streams, stream.samples = [] := by
  simp [withLast, Stream.last?]

/-- The latest of several samples is one of them, and none is later. -/
lemma latest_spec (first : Sample) (others : List Sample) :
    (∃ sample ∈ first :: others, sample.time = latest first others) ∧
      ∀ sample ∈ first :: others, sample.time.micros ≤ (latest first others).micros := by
  induction others using List.reverseRecOn with
  | nil => exact ⟨⟨first, by simp, rfl⟩, by simp [latest]⟩
  | append_singleton others last ih =>
    obtain ⟨⟨found, hfound, htime⟩, hle⟩ := ih
    -- the last sample takes the place of the latest one before it if it is later
    have hstep : latest first (others ++ [last]) =
        if (latest first others).micros < last.time.micros then last.time
        else latest first others := by
      rw [latest, List.foldl_append]
      rfl
    have hmem {sample : Sample} :
        sample ∈ first :: (others ++ [last]) ↔ sample ∈ first :: others ∨ sample = last := by
      rw [← List.cons_append, List.mem_append, List.mem_singleton]
    rw [hstep]
    split
    · next hlater =>
      refine ⟨⟨last, hmem.2 (.inr rfl), rfl⟩, fun sample hsample => ?_⟩
      rcases hmem.1 hsample with hsample | rfl
      · exact (hle sample hsample).trans hlater.le
      · exact le_rfl
    · next hearlier =>
      refine ⟨⟨found, hmem.2 (.inl hfound), htime⟩, fun sample hsample => ?_⟩
      rcases hmem.1 hsample with hsample | rfl
      · exact hle sample hsample
      · exact not_lt.1 hearlier

/-- The latest of the last samples is the alignment. -/
theorem isAlignment_latest {streams : List Stream} {stream : Stream} {sample : Sample}
    {rest : List (Stream × Sample)} (h : withLast streams = (stream, sample) :: rest) :
    IsAlignment streams (latest sample (rest.map Prod.snd)) := by
  have hsamples : sample :: rest.map Prod.snd = (withLast streams).map Prod.snd := by
    rw [h, List.map_cons]
  obtain ⟨⟨found, hfound, htime⟩, hle⟩ := latest_spec sample (rest.map Prod.snd)
  rw [hsamples] at hfound hle
  obtain ⟨⟨other, last⟩, hother, rfl⟩ := List.mem_map.1 hfound
  obtain ⟨hother, hlast⟩ := mem_withLast.1 hother
  refine ⟨⟨other, hother, last, hlast, htime⟩, fun stream hstream last hlast => ?_⟩
  exact hle last (List.mem_map.2 ⟨(stream, last), mem_withLast.2 ⟨hstream, hlast⟩, rfl⟩)

/-! ### The expected samples -/

/-- The expected sample of a series with its last sample. -/
def expectedSample (e : Stream × Sample) : Except ShapeFault ExpectedSample :=
  e.1.key.map fun key => ⟨key, e.2.value⟩

lemma expectedSamples_eq (ends : List (Stream × Sample)) :
    expectedSamples ends =
      (ends.mapM expectedSample).bind (Json.sortBy ExpectedSample.labels) := rfl

/-- Series with texts as labels have texts as keys of their expected samples. -/
lemma exists_mapM_expectedSample {ends : List (Stream × Sample)}
    (htexts : ∀ e ∈ ends, e.1.labels.AreTexts) :
    ∃ samples : List ExpectedSample, ends.mapM expectedSample = .ok samples ∧
      ∀ sample ∈ samples, sample.labels = .text sample.labels.display := by
  induction ends with
  | nil => exact ⟨[], rfl, by simp⟩
  | cons e rest ih =>
    rw [List.forall_mem_cons] at htexts
    obtain ⟨text, htext⟩ := htexts.1.exists_key
    obtain ⟨samples, hsamples, hlabels⟩ := ih htexts.2
    refine ⟨⟨.text text, e.2.value⟩ :: samples, ?_, ?_⟩
    · rw [List.mapM_cons, hsamples, expectedSample, Stream.key, htext]
      rfl
    · rw [List.forall_mem_cons]
      exact ⟨rfl, hlabels⟩

/-- Series with texts as labels have expected samples. -/
theorem exists_expectedSamples {ends : List (Stream × Sample)}
    (htexts : ∀ e ∈ ends, e.1.labels.AreTexts) :
    ∃ expected, expectedSamples ends = .ok expected := by
  obtain ⟨samples, hsamples, hlabels⟩ := exists_mapM_expectedSample htexts
  have hsorted := Json.sortBy_of_text (fun sample : ExpectedSample => sample.labels.display) hlabels
  rw [expectedSamples_eq, hsamples]
  exact ⟨_, hsorted⟩

/-! ### The call -/

/-- The recorded values of a rule are asked for with one query. The result is a fault if the query
fails, if its answer is no matrix or if no series has samples, and otherwise comes with the
alignment. -/
inductive OwnValueRun (g : Generator) (name : Json) (now : Instant) :
    List Exchange → Except Fault (List ExpectedSample × Instant) → Prop where
  | unanswered (fault : Fault) :
    OwnValueRun g name now [.asked (g.ownQuery name) now (.error fault)] (.error fault)
  | noMatrix {answer : QueryResult} (h : answer.kind ≠ .matrix) :
    OwnValueRun g name now [.asked (g.ownQuery name) now (.ok answer)]
      (.error (.failure (.unexpectedResult answer.kind (g.ownQuery name))))
  | noSamples {streams : List Stream} (h : ∀ stream ∈ streams, stream.samples = []) :
    OwnValueRun g name now [.asked (g.ownQuery name) now (.ok (.matrix streams))]
      (.error (.failure (.noSamples name g.lookback)))
  | found {streams : List Stream} {alignment : Instant} (expected : List ExpectedSample)
    (h : IsAlignment streams alignment) :
    OwnValueRun g name now [.asked (g.ownQuery name) now (.ok (.matrix streams))]
      (.ok (expected, alignment))

/-- The recorded values are found with one call. -/
theorem runs_ownValue {σ : Type} (g : Generator) (gateway : Gateway σ) (name : Json)
    (now : Instant) (s : σ) :
    ∃ calls result final,
      Act.Runs gateway (g.ownValue gateway.recorded name now) (g.ownValue gateway name now) s calls
        result final ∧
      ((∀ call ∈ calls, call.TextLabelled) → OwnValueRun g name now calls result) := by
  have hquery : Act.Runs gateway _ _ s _ _ _ := Act.Runs.query (g.ownQuery name) now s
  -- the one call is made whatever happens; the rest depends on its answer alone
  rcases hanswer : (gateway.query (g.ownQuery name) now s).1 with fault | answer
  · rw [hanswer] at hquery
    exact ⟨_, _, _, hquery.bind_error, fun _ => .unanswered fault⟩
  rw [hanswer] at hquery
  have hother (hkind : answer.kind ≠ .matrix)
      (hmatrix : matrixOf (g.ownQuery name) answer =
        .error (.failure (.unexpectedResult answer.kind (g.ownQuery name)))) :
      ∃ calls result final,
        Act.Runs gateway (g.ownValue gateway.recorded name now) (g.ownValue gateway name now) s
          calls result final ∧
        ((∀ call ∈ calls, call.TextLabelled) → OwnValueRun g name now calls result) :=
    ⟨_, _, _, hquery.bind_last (.bind_error (.ofExcept hmatrix _)), fun _ => .noMatrix hkind⟩
  cases answer with
  | scalar sample => exact hother (by simp [QueryResult.kind]) rfl
  | string time value => exact hother (by simp [QueryResult.kind]) rfl
  | vector series => exact hother (by simp [QueryResult.kind]) rfl
  | matrix streams =>
    -- nothing below looks at the state that the backend is left in
    generalize (gateway.query (g.ownQuery name) now s).2 = middle at hquery
    cases hlast : withLast streams with
    | nil =>
      refine ⟨_, .error (.failure (.noSamples name g.lookback)), middle,
        hquery.bind_last (.bind_silent (.ofExcept rfl middle) ?_),
        fun _ => .noSamples (withLast_eq_nil_iff.1 hlast)⟩
      simp only [hlast]
      exact .fail _ middle
    | cons e rest =>
      obtain ⟨stream, sample⟩ := e
      -- at least one stream ends with a sample, so there is a latest one
      have halignment := isAlignment_latest hlast
      rcases hexpected : expectedSamples ((stream, sample) :: rest) with fault | expected
      · refine ⟨_, .error (.shape fault), middle,
          hquery.bind_last (.bind_silent (.ofExcept rfl middle) ?_), fun htexts => ?_⟩
        · simp only [hlast, hexpected]
          exact .bind_error (.ofExcept rfl middle)
        -- labels that are texts can always be rendered, so this case does not arise
        · have hstreams : ∀ stream ∈ streams, stream.labels.AreTexts :=
            htexts _ (List.mem_singleton_self _)
          have hends : ∀ e ∈ (stream, sample) :: rest, e.1.labels.AreTexts := by
            rw [← hlast]
            exact fun e he => hstreams e.1 (mem_withLast.1 he).1
          obtain ⟨expected, hok⟩ := exists_expectedSamples hends
          rw [hexpected] at hok
          cases hok
      · refine ⟨_, .ok (expected, latest sample (rest.map Prod.snd)), middle,
          hquery.bind_last (.bind_silent (.ofExcept rfl middle) ?_),
          fun _ => .found expected halignment⟩
        simp only [hlast, hexpected]
        exact .bind_silent (.ofExcept rfl middle) (.pure _ middle)

end Generator

end RuleFixtures
