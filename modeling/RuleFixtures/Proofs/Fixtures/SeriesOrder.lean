import RuleFixtures.Proofs.Fixtures.Comparison
import RuleFixtures.Proofs.Fixtures.OwnValue
import RuleFixtures.Proofs.Labels.Identity
import RuleFixtures.Proofs.Traversal

/-!
The same series in another order.

What is made of an answer does not depend on the order of its series, or of the labels of a series.

* `SameSeries` holds of series with the same distinct keys and the same samples under each.
* `SameSeries.alignment_eq` and `SameSeries.expectedSamples_eq`: the window ends at the same
  instant, and the same samples are expected; so the recorded values are the same
  (`SameSeries.ownAnswer_eq`).
* `SameSeries.exists_collect`: they are collected to the same history.
* `QueryResult.Reordered` relates two answers that differ in these orders only.
-/

namespace RuleFixtures

/-- The key of a series with its samples. -/
def Stream.content (stream : Stream) : Except ShapeFault Json × List Sample :=
  (stream.key, stream.samples)

/-- The same series in another order. Their keys are distinct texts. -/
structure SameSeries (first second : List Stream) : Prop where
  texts : ∀ stream ∈ first, ∃ text, stream.key = .ok (.text text)
  nodup : (first.map Stream.key).Nodup
  perm : (first.map Stream.content).Perm (second.map Stream.content)

lemma map_content_fst (streams : List Stream) :
    (streams.map Stream.content).map Prod.fst = streams.map Stream.key :=
  List.map_map

/-- The first series with a key is the only one if keys are distinct. -/
lemma samples_firstWith_eq_some_iff {streams : List Stream} (h : (streams.map Stream.key).Nodup)
    {key : Json} {samples : List Sample} :
    (firstWith key streams).map Stream.samples = some samples ↔
      (.ok key, samples) ∈ streams.map Stream.content := by
  rw [Option.map_eq_some_iff, List.mem_map]
  constructor
  · rintro ⟨stream, hfound, rfl⟩
    refine ⟨stream, mem_of_firstWith hfound, ?_⟩
    rw [Stream.content, key_of_firstWith hfound]
  · rintro ⟨stream, hmem, hcontent⟩
    obtain ⟨hkey, rfl⟩ := Prod.mk.inj hcontent
    obtain ⟨found, hfound⟩ := Option.isSome_iff_exists.1
      (List.find?_isSome.2 ⟨stream, hmem, Stream.hasKey_iff.2 hkey⟩)
    have hsame : found = stream := List.inj_on_of_nodup_map h (mem_of_firstWith hfound) hmem
      ((key_of_firstWith hfound).trans hkey.symm)
    exact ⟨found, hfound, by rw [hsame]⟩

namespace SameSeries

variable {first second : List Stream} (h : SameSeries first second)

include h

lemma symm : SameSeries second first where
  texts stream hstream := by
    obtain ⟨other, hother, hcontent⟩ :=
      List.mem_map.1 (h.perm.symm.subset (List.mem_map_of_mem hstream))
    obtain ⟨hkey, _⟩ := Prod.mk.inj hcontent
    rw [← hkey]
    exact h.texts other hother
  nodup := by
    have hkeys := h.perm.map Prod.fst
    rw [map_content_fst, map_content_fst] at hkeys
    exact hkeys.nodup_iff.1 h.nodup
  perm := h.perm.symm

/-- The samples of every key are the same. -/
lemma samples_firstWith (key : Json) :
    (firstWith key first).map Stream.samples = (firstWith key second).map Stream.samples := by
  refine Option.ext fun samples => ?_
  rw [samples_firstWith_eq_some_iff h.nodup, samples_firstWith_eq_some_iff h.symm.nodup]
  exact h.perm.mem_iff

/-- A series of one answer has its other. -/
lemma exists_samples {stream : Stream} (hstream : stream ∈ first) :
    ∃ other ∈ second, other.samples = stream.samples := by
  obtain ⟨other, hother, hcontent⟩ :=
    List.mem_map.1 (h.perm.subset (List.mem_map_of_mem hstream))
  exact ⟨other, hother, (Prod.mk.inj hcontent).2⟩

/-! ### The recorded values -/

/-- The latest instant at which a series has its last sample is the same. -/
lemma alignment_eq {alignment other : Instant} (hfirst : IsAlignment first alignment)
    (hsecond : IsAlignment second other) : alignment = other := by
  have hle {first second : List Stream} (h : SameSeries first second) {alignment other : Instant}
      (hfirst : IsAlignment first alignment) (hsecond : IsAlignment second other) :
      alignment.micros ≤ other.micros := by
    obtain ⟨stream, hstream, sample, hlast, rfl⟩ := hfirst.1
    obtain ⟨twin, htwin, hsamples⟩ := h.exists_samples hstream
    rw [Stream.last?, ← hsamples] at hlast
    exact hsecond.2 twin htwin sample hlast
  exact Instant.eq_of_le_of_ge (hle h hfirst hsecond) (hle h.symm hsecond hfirst)

end SameSeries

/-- The key of a series with its last sample. -/
def endContent (e : Stream × Sample) : Except ShapeFault Json × Sample := (e.1.key, e.2)

/-- The last samples are found in the contents. -/
lemma map_withLast (streams : List Stream) :
    (Generator.withLast streams).map endContent =
      (streams.map Stream.content).filterMap fun content =>
        content.2.getLast?.map (content.1, ·) := by
  rw [Generator.withLast, List.map_filterMap, List.filterMap_map]
  refine List.filterMap_congr fun stream _ => ?_
  rw [Option.map_map, Stream.last?]
  rfl

/-- The expected sample of a key with a last sample. -/
def expectedOf (content : Except ShapeFault Json × Sample) : Except ShapeFault ExpectedSample :=
  content.1.map fun key => ⟨key, content.2.value⟩

lemma expectedOf_eq_ok_iff {content : Except ShapeFault Json × Sample} {sample : ExpectedSample} :
    expectedOf content = .ok sample ↔
      content.1 = .ok sample.labels ∧ content.2.value = sample.value := by
  obtain ⟨key, last⟩ := content
  obtain ⟨labels, value⟩ := sample
  cases key <;> simp [expectedOf, Except.map]

/-- The same last samples in another order give the same expected samples. -/
lemma expectedSamples_eq_of_perm {ends others : List (Stream × Sample)}
    (hperm : (ends.map endContent).Perm (others.map endContent))
    (htexts : ∀ content ∈ ends.map endContent, ∃ text, content.1 = .ok (.text text))
    (hnodup : ((ends.map endContent).map Prod.fst).Nodup) :
    Generator.expectedSamples ends = Generator.expectedSamples others := by
  have hmap (ends : List (Stream × Sample)) :
      ends.mapM Generator.expectedSample = (ends.map endContent).mapM expectedOf := by
    rw [List.mapM_map]
    rfl
  -- the samples are made in either order, as a permutation of each other
  have hall : ∀ content ∈ ends.map endContent, ∃ sample, expectedOf content = .ok sample := by
    intro content hcontent
    obtain ⟨text, htext⟩ := htexts content hcontent
    exact ⟨⟨.text text, content.2.value⟩, expectedOf_eq_ok_iff.2 ⟨htext, rfl⟩⟩
  obtain ⟨samples, hsamples⟩ := exists_mapM_eq_ok hall
  have hfound := mapM_eq_ok_iff.1 hsamples
  obtain ⟨found, hothers, hreordered⟩ := exists_mapM_perm hperm hsamples
  have hkeys : (ends.map endContent).map Prod.fst =
      samples.map fun sample => .ok sample.labels := by
    rw [← List.forall₂_eq_eq_eq, List.forall₂_map_left_iff, List.forall₂_map_right_iff]
    exact hfound.imp fun content sample h => (expectedOf_eq_ok_iff.1 h).1
  -- sorting by keys that are distinct forgets the order
  have hlabels : (samples.map ExpectedSample.labels).Nodup := by
    rw [hkeys] at hnodup
    refine List.Nodup.of_map (Except.ok : Json → Except ShapeFault Json) ?_
    rwa [List.map_map]
  have hsort : Json.sortBy ExpectedSample.labels samples =
      Json.sortBy ExpectedSample.labels found := by
    refine Json.sortBy_eq_of_perm (fun sample hsample => ?_)
      (fun a ha b hb => List.inj_on_of_nodup_map hlabels ha hb) hreordered.symm
    obtain ⟨content, hcontent, hsample⟩ := exists_of_forall₂ hfound.flip hsample
    obtain ⟨text, htext⟩ := htexts content hcontent
    rw [(expectedOf_eq_ok_iff.1 hsample).1] at htext
    exact ⟨text, Except.ok.inj htext⟩
  rw [Generator.expectedSamples_eq, Generator.expectedSamples_eq, hmap, hmap, hsamples,
    hothers]
  exact hsort

namespace SameSeries

variable {first second : List Stream} (h : SameSeries first second)

include h

/-- The last samples are the same. -/
lemma perm_withLast : ((Generator.withLast first).map endContent).Perm
    ((Generator.withLast second).map endContent) := by
  rw [map_withLast, map_withLast]
  exact h.perm.filterMap _

lemma withLast_eq_nil (hnil : Generator.withLast first = []) : Generator.withLast second = [] := by
  have hperm := h.perm_withLast
  rw [hnil, List.map_nil] at hperm
  exact List.map_eq_nil_iff.1 hperm.nil_eq.symm

/-- The expected samples are the same. -/
lemma expectedSamples_eq : Generator.expectedSamples (Generator.withLast first) =
    Generator.expectedSamples (Generator.withLast second) := by
  refine expectedSamples_eq_of_perm h.perm_withLast (fun content hcontent => ?_) ?_
  · obtain ⟨e, he, rfl⟩ := List.mem_map.1 hcontent
    exact h.texts e.1 (Generator.mem_withLast.1 he).1
  · -- series keep their distinct keys when those without samples are left out
    rw [List.map_map, List.Nodup, List.pairwise_map, Generator.withLast]
    refine List.Pairwise.filterMap _ (fun stream other hne e he e' he' => ?_)
      (List.pairwise_map.1 h.nodup)
    obtain ⟨_, _, rfl⟩ := Option.map_eq_some_iff.1 he
    obtain ⟨_, _, rfl⟩ := Option.map_eq_some_iff.1 he'
    exact hne

/-- So the recorded values are the same. -/
theorem ownAnswer_eq (g : Generator) (name : Json) :
    g.ownAnswer name (.matrix first) = g.ownAnswer name (.matrix second) := by
  have hexpected := h.expectedSamples_eq
  rw [Generator.ownAnswer, Generator.ownAnswer, Generator.matrixOf, Generator.matrixOf]
  dsimp only [bind, Except.bind]
  cases hfirst : Generator.withLast first with
  | nil => rw [h.withLast_eq_nil hfirst]
  | cons e rest =>
    cases hsecond : Generator.withLast second with
    | nil =>
      rw [h.symm.withLast_eq_nil hsecond] at hfirst
      cases hfirst
    | cons e' rest' =>
      have halignment := h.alignment_eq (Generator.isAlignment_latest hfirst)
        (Generator.isAlignment_latest hsecond)
      rw [hfirst, hsecond] at hexpected
      dsimp only
      rw [halignment, hexpected]

/-! ### The history -/

/-- From histories that are alike the same is collected, and as many series are new. -/
lemma exists_collect {history other : Accumulator} (halike : history.Alike other) :
    ∃ added grown others, Generator.collect history first = .ok (added, grown) ∧
      Generator.collect other second = .ok (added, others) ∧ SampleHistory.Alike grown others := by
  obtain ⟨added, grown, hgrown, hsize, hcollected⟩ := Generator.exists_collect history h.texts
  obtain ⟨added', others, hothers, hsize', hcollected'⟩ :=
    Generator.exists_collect other h.symm.texts
  have hgrownAlike : SampleHistory.Alike grown others :=
    hcollected.alike hcollected' halike h.texts h.samples_firstWith
  have hadded : added = added' := by
    have hbefore : history.size = other.size := OrderedMap.size_eq halike.get?
    have hafter : OrderedMap.size grown = OrderedMap.size others :=
      OrderedMap.size_eq hgrownAlike.get?
    omega
  exact ⟨added, grown, others, hgrown, hadded ▸ hothers, hgrownAlike⟩

end SameSeries

/-! ### Answers -/

/-- The series has the same samples, and its labels are the same texts in another order. -/
def Stream.Reordered (first second : Stream) : Prop :=
  first.samples = second.samples ∧ ∃ labels others : TextLabels,
    first.labels = .ofTexts labels ∧ second.labels = .ofTexts others ∧
      labels.entries.Perm others.entries

/-- Labels in another order have the same key. -/
lemma Labels.key_eq_of_perm {labels others : TextLabels} (h : labels.entries.Perm others.entries) :
    (ofTexts labels).key = (ofTexts others).key := by
  have hget : labels.get? "__name__" = others.get? "__name__" := by
    refine Option.ext fun value => ?_
    rw [OrderedMap.get?_eq_some_iff, OrderedMap.get?_eq_some_iff, h.mem_iff]
  have hpairs : (seriesPairs labels).Perm (seriesPairs others) := h.filter _
  rw [key_ofTexts, key_ofTexts, seriesName, seriesName, hget, sortedPairs_eq_of_perm hpairs]

lemma Stream.Reordered.content_eq {first second : Stream} (h : first.Reordered second) :
    first.content = second.content := by
  obtain ⟨hsamples, labels, others, hfirst, hsecond, hperm⟩ := h
  rw [content, content, key, key, hfirst, hsecond, hsamples, Labels.key_eq_of_perm hperm]

/-- An answer that is no matrix is the same; a matrix may have its series in another order, and each
of them its labels. The labels are texts and the keys of the series are distinct. -/
inductive QueryResult.Reordered : QueryResult → QueryResult → Prop where
  | same (answer : QueryResult) (h : answer.kind ≠ .matrix) : Reordered answer answer
  | matrix {first middle second : List Stream} (hperm : first.Perm middle)
    (hlabels : List.Forall₂ Stream.Reordered middle second)
    (hkeys : (first.map Stream.key).Nodup) : Reordered (.matrix first) (.matrix second)

/-- The series of a matrix are the same in another order. -/
lemma sameSeries_of_reordered {first middle second : List Stream} (hperm : first.Perm middle)
    (hlabels : List.Forall₂ Stream.Reordered middle second)
    (hkeys : (first.map Stream.key).Nodup) : SameSeries first second where
  texts stream hstream := by
    obtain ⟨_, _, _, labels, _, hfirst, _⟩ := exists_of_forall₂ hlabels (hperm.subset hstream)
    exact ⟨_, by rw [Stream.key, hfirst, Labels.key_ofTexts]⟩
  nodup := hkeys
  perm := by
    have hcontents : middle.map Stream.content = second.map Stream.content := by
      rw [← List.forall₂_eq_eq_eq, List.forall₂_map_left_iff, List.forall₂_map_right_iff]
      exact hlabels.imp fun _ _ h => h.content_eq
    rw [← hcontents]
    exact hperm.map Stream.content

end RuleFixtures
