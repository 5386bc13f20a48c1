import RuleFixtures.Proofs.Fixtures.Comparison
import RuleFixtures.Proofs.Fixtures.OwnValue
import RuleFixtures.Proofs.Traversal

/-!
What is expected of a rule is what its series have latest.

* `Stream.Expects` relates a series to its expected sample.
* `IsOwnValue` describes the expected samples and the alignment that belong to the series of an
  answer. They are determined up to the order of the samples (`IsOwnValue.perm`).
* `Generator.ownAnswer_fails_iff`: an answer gives a failure of the query if it is no matrix or
  without samples.
* `Generator.ownValue_of_answer`: otherwise it gives the value that belongs to it.
-/

namespace RuleFixtures

namespace Stream

/-- Does the series have samples? -/
def hasSamples (stream : Stream) : Bool := !stream.samples.isEmpty

@[simp]
lemma hasSamples_iff {stream : Stream} : stream.hasSamples = true ↔ stream.samples ≠ [] := by
  simp [hasSamples]

/-- The samples of the series come in the order of their times. -/
def IsOrdered (stream : Stream) : Prop :=
  stream.samples.Pairwise fun a b => a.time.micros ≤ b.time.micros

/-- In a series that is ordered no sample is later than the last one. -/
lemma IsOrdered.le_last {stream : Stream} (h : stream.IsOrdered) {last : Sample}
    (hlast : stream.last? = some last) :
    ∀ sample ∈ stream.samples, sample.time.micros ≤ last.time.micros := by
  obtain ⟨earlier, hsamples⟩ := List.getLast?_eq_some_iff.1 hlast
  rw [IsOrdered, hsamples, List.pairwise_append] at h
  intro sample hsample
  rw [hsamples, List.mem_append, List.mem_singleton] at hsample
  rcases hsample with hsample | rfl
  · exact h.2.2 sample hsample last (List.mem_singleton_self last)
  · exact le_rfl

/-- The expected sample has the key of the series and the value of its last sample, than which the
series has no later one. -/
def Expects (stream : Stream) (expected : ExpectedSample) : Prop :=
  stream.key = .ok expected.labels ∧ ∃ last, stream.last? = some last ∧
    last.value = expected.value ∧ ∀ sample ∈ stream.samples, sample.time.micros ≤ last.time.micros

/-- A series expects one sample only. -/
lemma expects_unique : Relator.RightUnique Expects := by
  rintro stream ⟨labels, value⟩ ⟨labels', value'⟩ ⟨hkey, last, hlast, hvalue, _⟩
    ⟨hkey', last', hlast', hvalue', _⟩
  rw [hkey] at hkey'
  rw [hlast] at hlast'
  cases hkey'
  cases hlast'
  exact congrArg _ (hvalue.symm.trans hvalue')

end Stream

/-- The value of a rule that belongs to the series of an answer. The alignment is the time of a
sample than which there is no later one. One sample is expected for each series with samples, and
they come in the order of their keys. -/
structure IsOwnValue (streams : List Stream) (expected : List ExpectedSample)
    (alignment : Instant) : Prop where
  taken : ∃ stream ∈ streams, ∃ sample ∈ stream.samples, sample.time = alignment
  le_alignment : ∀ stream ∈ streams, ∀ sample ∈ stream.samples,
    sample.time.micros ≤ alignment.micros
  expects : ∃ found, List.Forall₂ Stream.Expects (streams.filter Stream.hasSamples) found ∧
    expected.Perm found
  sorted : ∃ keys : List String, expected.map ExpectedSample.labels = keys.map .text ∧
    keys.Pairwise (· ≤ ·)

namespace IsOwnValue

variable {streams others : List Stream} {expected reordered : List ExpectedSample}
  {alignment other : Instant}

/-- No alignment of the same series is later. -/
lemma alignment_le (h : IsOwnValue streams expected alignment) (hperm : streams.Perm others)
    (hother : IsOwnValue others reordered other) : alignment.micros ≤ other.micros := by
  obtain ⟨stream, hstream, sample, hsample, rfl⟩ := h.taken
  exact hother.le_alignment stream (hperm.subset hstream) sample hsample

/-- The same series in another order have the same alignment, and the same samples are expected. -/
theorem perm (h : IsOwnValue streams expected alignment) (hperm : streams.Perm others)
    (hother : IsOwnValue others reordered other) :
    other = alignment ∧ reordered.Perm expected := by
  constructor
  · exact Instant.eq_of_le_of_ge (hother.alignment_le hperm.symm h) (h.alignment_le hperm hother)
  · obtain ⟨found, hfound, hexpected⟩ := h.expects
    obtain ⟨twin, htwin, hreordered⟩ := hother.expects
    obtain ⟨moved, hmoved, hsame⟩ := List.perm_comp_forall₂ (hperm.filter _).symm hfound
    have htwins : twin = moved := List.right_unique_forall₂' Stream.expects_unique htwin hmoved
    rw [htwins] at hreordered
    exact hreordered.trans (hsame.trans hexpected.symm)

end IsOwnValue

namespace Generator

/-! ### The samples that are expected -/

/-- The last samples that are gone through are those of the series with samples. -/
lemma forall₂_expects {streams : List Stream} {found : List ExpectedSample}
    (hordered : ∀ stream ∈ streams, stream.IsOrdered)
    (h : List.Forall₂ (fun e sample => expectedSample e = .ok sample) (withLast streams) found) :
    List.Forall₂ Stream.Expects (streams.filter Stream.hasSamples) found := by
  induction streams generalizing found with
  | nil => simpa [withLast] using h
  | cons stream rest ih =>
    rw [List.forall_mem_cons] at hordered
    cases hlast : stream.last? with
    | none =>
      have hnone : stream.hasSamples = false := by
        simpa [Stream.hasSamples, Stream.last?] using hlast
      have hskip : withLast (stream :: rest) = withLast rest := by simp [withLast, hlast]
      rw [hskip] at h
      rw [List.filter_cons_of_neg (by simp [hnone])]
      exact ih hordered.2 h
    | some last =>
      have hsome : stream.hasSamples = true := by
        rw [Stream.hasSamples_iff]
        rintro hnil
        simp [Stream.last?, hnil] at hlast
      have htake : withLast (stream :: rest) = (stream, last) :: withLast rest := by
        simp [withLast, hlast]
      rw [htake] at h
      rw [List.filter_cons_of_pos hsome]
      cases h with
      | cons hfirst hrest =>
        refine .cons ?_ (ih hordered.2 hrest)
        obtain ⟨key, hkey, rfl⟩ := (map_eq_ok_iff _).1 hfirst
        exact ⟨hkey, last, hlast, rfl, hordered.1.le_last hlast⟩

/-- The expected samples are those of the series with samples, in the order of their keys. -/
lemma expects_of_expectedSamples {streams : List Stream} {expected : List ExpectedSample}
    (htexts : ∀ stream ∈ streams, stream.labels.AreTexts)
    (hordered : ∀ stream ∈ streams, stream.IsOrdered)
    (h : expectedSamples (withLast streams) = .ok expected) :
    (∃ found, List.Forall₂ Stream.Expects (streams.filter Stream.hasSamples) found ∧
      expected.Perm found) ∧
    ∃ keys : List String, expected.map ExpectedSample.labels = keys.map .text ∧
      keys.Pairwise (· ≤ ·) := by
  rw [expectedSamples_eq] at h
  obtain ⟨found, hfound, hsorted⟩ := bind_eq_ok_iff.1 h
  rw [mapM_eq_ok_iff] at hfound
  refine ⟨⟨found, forall₂_expects hordered hfound, Json.perm_of_sortBy hsorted⟩, ?_⟩
  refine Json.exists_texts_of_sortBy (fun sample hsample => ?_) hsorted
  obtain ⟨e, he, hsample⟩ := exists_of_forall₂ hfound.flip hsample
  obtain ⟨key, hkey, rfl⟩ := (map_eq_ok_iff _).1 hsample
  obtain ⟨text, htext⟩ := (htexts e.1 (mem_withLast.1 he).1).exists_key
  exact ⟨text, Except.ok.inj (hkey.symm.trans htext)⟩

/-! ### The answer -/

variable (g : Generator) (name : Json)

/-- A matrix without samples is a failure of the query. -/
lemma ownAnswer_of_noSamples {streams : List Stream}
    (hnone : ∀ stream ∈ streams, stream.samples = []) :
    g.ownAnswer name (.matrix streams) = .error (.failure (.noSamples name g.lookback)) := by
  rw [ownAnswer, matrixOf]
  dsimp only [bind, Except.bind]
  rw [withLast_eq_nil_iff.2 hnone]

/-- From a matrix with samples the expected samples are taken. Its alignment does not depend on
whether they can be sorted. -/
lemma exists_ownAnswer_eq {streams : List Stream}
    (hsome : ∃ stream ∈ streams, stream.samples ≠ []) :
    ∃ alignment, IsAlignment streams alignment ∧ g.ownAnswer name (.matrix streams) =
      ((expectedSamples (withLast streams)).mapError .shape).map (·, alignment) := by
  cases hlast : withLast streams with
  | nil =>
    obtain ⟨stream, hstream, hne⟩ := hsome
    exact absurd (withLast_eq_nil_iff.1 hlast stream hstream) hne
  | cons e rest =>
    refine ⟨_, isAlignment_latest hlast, ?_⟩
    rw [ownAnswer, matrixOf]
    dsimp only [bind, Except.bind]
    rw [hlast]
    dsimp only
    cases expectedSamples (e :: rest) <;> rfl

/-- An answer gives a failure of the query if and only if it is no matrix or has no samples. -/
theorem ownAnswer_fails_iff (answer : QueryResult) :
    (∃ failure, g.ownAnswer name answer = .error (.failure failure) ∧ failure.category = .query) ↔
      answer.kind ≠ .matrix ∨
        ∃ streams, answer = .matrix streams ∧ ∀ stream ∈ streams, stream.samples = [] := by
  cases answer with
  | matrix streams =>
    constructor
    · rintro ⟨failure, hfails, _⟩
      refine .inr ⟨streams, rfl, ?_⟩
      -- with a sample there is an alignment, and what fails then is not the query
      by_contra hsome
      push Not at hsome
      obtain ⟨alignment, _, hanswer⟩ := g.exists_ownAnswer_eq name hsome
      rw [hanswer, map_eq_error_iff] at hfails
      cases hexpected : expectedSamples (withLast streams) with
      | ok expected =>
        rw [hexpected] at hfails
        cases hfails
      | error fault =>
        rw [hexpected] at hfails
        cases hfails
    · rintro (hkind | ⟨_, hstreams, hnone⟩)
      · exact absurd rfl hkind
      · cases hstreams
        exact ⟨_, g.ownAnswer_of_noSamples name hnone, rfl⟩
  | _ => exact ⟨fun _ => .inl (by simp [QueryResult.kind]), fun _ => ⟨_, rfl, rfl⟩⟩

/-- A matrix with samples gives the value that belongs to its series. -/
theorem exists_isOwnValue {streams : List Stream}
    (htexts : ∀ stream ∈ streams, stream.labels.AreTexts)
    (hordered : ∀ stream ∈ streams, stream.IsOrdered)
    (hsome : ∃ stream ∈ streams, stream.samples ≠ []) :
    ∃ expected alignment, g.ownAnswer name (.matrix streams) = .ok (expected, alignment) ∧
      IsOwnValue streams expected alignment := by
  have hends : ∀ e ∈ withLast streams, e.1.labels.AreTexts := fun e he =>
    htexts e.1 (mem_withLast.1 he).1
  obtain ⟨expected, hexpected⟩ := exists_expectedSamples hends
  obtain ⟨alignment, ⟨⟨stream, hstream, last, hlast, htime⟩, hlatest⟩, hanswer⟩ :=
    g.exists_ownAnswer_eq name hsome
  obtain ⟨hexpects, hsorted⟩ := expects_of_expectedSamples htexts hordered hexpected
  refine ⟨expected, alignment, by rw [hanswer, hexpected]; rfl, ?_, ?_, hexpects, hsorted⟩
  · exact ⟨stream, hstream, last, List.mem_of_getLast? hlast, htime⟩
  · intro other hother sample hsample
    cases hend : other.last? with
    | none =>
      rw [Stream.last?, List.getLast?_eq_none_iff] at hend
      rw [hend] at hsample
      cases hsample
    | some finish =>
      calc sample.time.micros ≤ finish.time.micros := (hordered other hother).le_last hend _ hsample
        _ ≤ alignment.micros := hlatest other hother finish hend

/-- What is asked for is answered, and the value is taken from the answer. -/
lemma ownValue_fst {σ : Type} {gateway : Gateway σ} {now : Instant} {s : σ} {answer : QueryResult}
    (hanswer : (gateway.query (g.ownQuery name) now s).1 = .ok answer) :
    (g.ownValue gateway name now s).1 = g.ownAnswer name answer := by
  rw [ownValue_eq, Act.fst_bind_of_ok hanswer]
  rfl

/-- The recorded values of a rule cannot be had from an answer if and only if this is no matrix or
has no samples. Otherwise they are those that belong to the series of the answer, and from the
series in another order come the same samples, up to their order, with the same alignment. -/
theorem ownValue_of_answer {σ : Type} {gateway : Gateway σ} {now : Instant} {s : σ}
    {answer : QueryResult} (hanswer : (gateway.query (g.ownQuery name) now s).1 = .ok answer) :
    ((∃ failure, (g.ownValue gateway name now s).1 = .error (.failure failure) ∧
        failure.category = .query) ↔
      answer.kind ≠ .matrix ∨
        ∃ streams, answer = .matrix streams ∧ ∀ stream ∈ streams, stream.samples = []) ∧
    ∀ streams, answer = .matrix streams → (∀ stream ∈ streams, stream.labels.AreTexts) →
      (∀ stream ∈ streams, stream.IsOrdered) → (∃ stream ∈ streams, stream.samples ≠ []) →
      ∃ expected alignment, (g.ownValue gateway name now s).1 = .ok (expected, alignment) ∧
        IsOwnValue streams expected alignment ∧
        ∀ others, streams.Perm others → ∀ (second : Gateway σ) (t : σ),
          (second.query (g.ownQuery name) now t).1 = .ok (.matrix others) →
          ∃ reordered, (g.ownValue second name now t).1 = .ok (reordered, alignment) ∧
            reordered.Perm expected := by
  rw [g.ownValue_fst name hanswer]
  refine ⟨g.ownAnswer_fails_iff name answer, ?_⟩
  rintro streams rfl htexts hordered hsome
  obtain ⟨expected, alignment, hvalue, howns⟩ := g.exists_isOwnValue name htexts hordered hsome
  refine ⟨expected, alignment, hvalue, howns, fun others hperm second t hothers => ?_⟩
  have hmem {stream : Stream} (hstream : stream ∈ others) : stream ∈ streams :=
    hperm.symm.subset hstream
  obtain ⟨stream, hstream, hne⟩ := hsome
  obtain ⟨reordered, alignment', hvalue', howns'⟩ := g.exists_isOwnValue name
    (fun stream hstream => htexts stream (hmem hstream))
    (fun stream hstream => hordered stream (hmem hstream)) ⟨stream, hperm.subset hstream, hne⟩
  obtain ⟨rfl, hsame⟩ := howns.perm hperm howns'
  exact ⟨reordered, (g.ownValue_fst name hothers).trans hvalue', hsame⟩

end Generator

/-- The labels of the recorded series of a job. -/
def recordedJob (job : String) : TextLabels := ⟨[("__name__", "job:up"), ("job", job)], by simp⟩

/-- The recorded series of three jobs: one has two samples, one has a later one, one has none. -/
def threeJobs : List Stream :=
  [⟨.ofTexts (recordedJob "b"), [⟨⟨60000000⟩, .ofInt 1⟩, ⟨⟨120000000⟩, .ofInt 2⟩]⟩,
    ⟨.ofTexts (recordedJob "a"), [⟨⟨180000000⟩, .ofInt 4⟩]⟩,
    ⟨.ofTexts (recordedJob "c"), []⟩]

/-- A backend that has recorded them, and nothing else. -/
def recordingThreeJobs : Gateway Unit where
  ruleGroups := pure []
  query _ _ := pure (.matrix threeJobs)
  queryRange _ _ _ _ := pure (.matrix [])

/-- A generator that looks back five minutes, without rules. -/
def withoutRules : Generator := { catalog := ⟨.empty, .empty⟩ }

/-- Two samples are expected, one for each job that is recorded, at the time of the later one. -/
theorem ownValue_of_answer_threeJobs :
    ∃ expected, (withoutRules.ownValue recordingThreeJobs (.text "job:up") ⟨300000000⟩ ()).1 =
        .ok (expected, ⟨180000000⟩) ∧
      IsOwnValue threeJobs expected ⟨180000000⟩ ∧ expected.length = 2 := by
  have hanswer : (recordingThreeJobs.query (withoutRules.ownQuery (.text "job:up")) ⟨300000000⟩
    ()).1 = .ok (.matrix threeJobs) := rfl
  have htexts : ∀ stream ∈ threeJobs, stream.labels.AreTexts := by
    simp [threeJobs, Labels.AreTexts]
  have hordered : ∀ stream ∈ threeJobs, stream.IsOrdered := by
    simp [threeJobs, Stream.IsOrdered]
  obtain ⟨_, hvalue⟩ := withoutRules.ownValue_of_answer (.text "job:up") hanswer
  obtain ⟨expected, alignment, hresult, howns, _⟩ :=
    hvalue threeJobs rfl htexts hordered ⟨_, List.mem_cons_self, by simp⟩
  have halignment : alignment = ⟨180000000⟩ := by
    have hlatest : ∃ stream ∈ threeJobs, ∃ sample ∈ stream.samples,
        sample.time.micros = 180000000 := by decide
    have hnone : ∀ stream ∈ threeJobs, ∀ sample ∈ stream.samples,
        sample.time.micros ≤ 180000000 := by decide
    obtain ⟨late, hlate, last, hlast, htime⟩ := hlatest
    have hle := howns.le_alignment late hlate last hlast
    obtain ⟨stream, hstream, sample, hsample, rfl⟩ := howns.taken
    rw [htime] at hle
    exact Instant.eq_of_le_of_ge (hnone stream hstream sample hsample) hle
  obtain ⟨found, hfound, hperm⟩ := howns.expects
  have hlength : expected.length = 2 := by
    rw [hperm.length_eq, ← hfound.length_eq]
    rfl
  subst halignment
  exact ⟨expected, hresult, howns, hlength⟩

end RuleFixtures
