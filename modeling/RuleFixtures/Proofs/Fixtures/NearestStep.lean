import RuleFixtures.Proofs.Fixtures.Row
import RuleFixtures.Proofs.Fixtures.SampleReading
import RuleFixtures.Proofs.Number.DoubleRounding

/-!
Rows of samples that need not lie on the grid of steps.

* `Instant.IsNearestStep` says which step of the grid is nearest to an instant, in whole numbers.
* `slotOf_eq_ok_iff`: an instant that is not too far from the start has the slot of its nearest
  step.
* `InputSeries.Rounds` describes a row by its samples: a slot is empty if no sample is nearest to
  its step, and otherwise reads as the first such sample.
* `exists_rows_rounding`: the rows of a history are such rows.
-/

namespace RuleFixtures

/-- The step of the grid that is nearest to an instant, the even one if the instant is in the middle
between two. -/
def Instant.IsNearestStep (start : Instant) (step : Duration) (time : Instant) (k : ℤ) : Prop :=
  Rounding.IsNearest (time.micros - start.micros) step.micros k

instance (start : Instant) (step : Duration) (time : Instant) (k : ℤ) :
    Decidable (start.IsNearestStep step time k) := by
  unfold Instant.IsNearestStep; infer_instance

/-- The distance in microseconds that doubles still tell apart when they are divided. -/
def reach : ℤ := 2 ^ 51

/-- The instant is not too far from the start. -/
def Instant.IsWithinReach (start time : Instant) : Prop := |time.micros - start.micros| ≤ reach

instance (start time : Instant) : Decidable (start.IsWithinReach time) := by
  unfold Instant.IsWithinReach; infer_instance

/-- An instant within reach has the slot of its nearest step. -/
theorem slotOf_eq_ok_iff {start time : Instant} {step : Duration} (hstep : 0 < step.micros)
    (hnear : start.IsWithinReach time) {k : ℤ} :
    slotOf start step time = .ok k ↔ start.IsNearestStep step time k := by
  obtain ⟨d, hd, hmicros⟩ := Duration.exists_micros_eq hstep
  have hlimit : (time.micros - start.micros).natAbs < 2 ^ 52 := by
    have hbounds := abs_le.1 (show |time.micros - start.micros| ≤ 2 ^ 51 from hnear)
    omega
  have hround := Binary64.roundToInt?_ofIntRatio hd hlimit
  have hratio : (time.since start).ratio? step =
      Binary64.ofIntRatio? (time.micros - start.micros) d := by
    rw [Duration.ratio?, Instant.since, hmicros]
  obtain ⟨quotient, hquotient, hslot⟩ := Option.bind_eq_some_iff.1 hround
  rw [slotOf, hratio, hquotient]
  simp only [hslot, Option.getD_some]
  rw [Except.ok.injEq, Instant.IsNearestStep, hmicros, Rounding.nearestInt_eq_iff hd]

/-- So it falls in this slot. -/
lemma Sample.fallsIn_iff {start : Instant} {step : Duration} (hstep : 0 < step.micros)
    {sample : Sample} (hnear : start.IsWithinReach sample.time) {k : ℕ} :
    sample.fallsIn start step k = true ↔ start.IsNearestStep step sample.time k := by
  rw [← slotOf_eq_ok_iff hstep hnear, Sample.fallsIn]
  cases slotOf start step sample.time <;> simp

/-- A row with a value for each slot, made of samples: a slot is empty if no sample is nearest to
its step, and otherwise its value is read as the first sample that is. -/
structure InputSeries.Rounds (row : InputSeries) (start : Instant) (step : Duration) (slots : ℕ)
    (samples : List Sample) : Prop where
  length : row.tokens.length = slots
  missing_iff : ∀ k, k < slots → (row.tokens[k]? = some missingValue ↔
    ∀ sample ∈ samples, ¬ start.IsNearestStep step sample.time k)
  read : ∀ k, k < slots → ∀ before sample after, samples = before ++ sample :: after →
    start.IsNearestStep step sample.time k →
    (∀ other ∈ before, ¬ start.IsNearestStep step other.time k) →
    ∃ token x, row.tokens[k]? = some token ∧ token ≠ missingValue ∧
      Binary64.read? token = some x ∧ x.SameNumber sample.value

section Rounds

variable {start : Instant} {step : Duration} (hstep : 0 < step.micros) {samples : List Sample}
  (hnear : ∀ sample ∈ samples, start.IsWithinReach sample.time)

include hstep hnear

/-- A slot is empty if no sample is nearest to its step. -/
lemma slotText_eq_missingValue_iff (k : ℕ) :
    slotText start step samples k = missingValue ↔
      ∀ sample ∈ samples, ¬ start.IsNearestStep step sample.time k := by
  have hnone : samples.find? (Sample.fallsIn start step k) = none ↔
      ∀ sample ∈ samples, ¬ start.IsNearestStep step sample.time k := by
    rw [List.find?_eq_none]
    refine forall₂_congr fun sample hsample => ?_
    rw [Sample.fallsIn_iff hstep (hnear sample hsample)]
  rw [← hnone, slotText]
  cases samples.find? (Sample.fallsIn start step k) with
  | none => simp
  | some sample => simp [SampleText.write_ne_missingValue]

/-- The first sample nearest to a step is written in its slot. -/
lemma slotText_of_first {k : ℕ} {before after : List Sample} {sample : Sample}
    (hsamples : samples = before ++ sample :: after)
    (hsample : start.IsNearestStep step sample.time k)
    (hbefore : ∀ other ∈ before, ¬ start.IsNearestStep step other.time k) :
    slotText start step samples k = SampleText.write sample.value := by
  subst hsamples
  have hfound : (before ++ sample :: after).find? (Sample.fallsIn start step k) = some sample := by
    rw [List.find?_eq_some_iff_append]
    refine ⟨(Sample.fallsIn_iff hstep (hnear sample (by simp))).2 hsample, before, after, rfl, ?_⟩
    intro other hother
    rw [Bool.not_eq_true', Bool.eq_false_iff, ne_eq,
      Sample.fallsIn_iff hstep (hnear other (List.mem_append_left _ hother))]
    exact hbefore other hother
  rw [slotText, hfound]

/-- A row with the texts of the slots is made of the samples. -/
lemma InputSeries.rounds_of_tokens {row : InputSeries} {slots : ℕ}
    (htokens : row.tokens = (List.range slots).map (slotText start step samples)) :
    row.Rounds start step slots samples := by
  have htoken {k : ℕ} (hk : k < slots) :
      row.tokens[k]? = some (slotText start step samples k) := by
    rw [htokens, List.getElem?_map, List.getElem?_range hk, Option.map_some]
  constructor
  case length => rw [htokens, List.length_map, List.length_range]
  case missing_iff =>
    intro k hk
    rw [htoken hk, Option.some.injEq, slotText_eq_missingValue_iff hstep hnear]
  case read =>
    intro k hk before sample after hsamples hsample hbefore
    obtain ⟨x, hread, hsame⟩ := SampleText.exists_read?_write sample.value
    have htext := slotText_of_first hstep hnear hsamples hsample hbefore
    refine ⟨_, x, htoken hk, ?_, ?_, hsame⟩
    · rw [htext]
      exact SampleText.write_ne_missingValue sample.value
    · rw [htext]
      exact hread

end Rounds

/-- A history has a row for each key, in the order of the keys. It has as many values as slots; a
value is missing if no sample of the key is nearest to its step, and otherwise it is read as the
first one that is. -/
theorem exists_rows_rounding {history : SampleHistory} {texts : List String}
    (hkeys : history.keys = texts.map .text) {start : Instant} {step : Duration}
    (hstep : 0 < step.micros) {slots : ℕ} (hslots : 0 < slots)
    (hnear : ∀ key samples, history.get? key = some samples →
      ∀ sample ∈ samples, start.IsWithinReach sample.time) :
    ∃ rows, assemble history start step slots = .ok rows ∧
      rows.map InputSeries.series = (texts.mergeSort fun a b => decide (a ≤ b)).map .text ∧
      ∀ row ∈ rows, ∃ samples, history.get? row.series = some samples ∧
        row.Rounds start step slots samples := by
  refine ⟨_, assemble_eq history start hstep.ne' slots hkeys, ?_, ?_⟩
  · rw [List.map_map]
    exact List.map_id _
  · intro row hrow
    obtain ⟨key, hkey, rfl⟩ := List.mem_map.1 hrow
    have hknown : key ∈ history.keys := by
      rw [hkeys]
      simpa using hkey
    obtain ⟨samples, hsamples⟩ := Option.ne_none_iff_exists'.1
      (mt (history.get?_eq_none_iff key).1 (not_not.2 hknown))
    refine ⟨samples, hsamples, InputSeries.rounds_of_tokens hstep (hnear key samples hsamples) ?_⟩
    rw [tokens_rowOf history start step hslots key, hsamples, Option.getD_some]

/-- Samples beside the grid of minutes: in the middle between two steps, before the start, and more
than one near to the same step. -/
def besideGrid : SampleHistory where
  entries := [(.text "up", [⟨⟨-29000000⟩, Binary64.zero true⟩, ⟨⟨30000000⟩, .ofInt 1⟩,
    ⟨⟨90000000⟩, .nan⟩, ⟨⟨119000000⟩, .ofInt 2⟩, ⟨⟨300000000⟩, .ofInt 3⟩])]
  nodup := by decide

/-- Its row has a value for the first minute and one for the third. -/
theorem exists_rows_rounding_besideGrid :
    ∃ row, assemble besideGrid ⟨0⟩ (.ofMinutes 1) 3 = .ok [row] ∧ row.tokens = ["0", "_", "NaN"] ∧
      ∃ samples, besideGrid.get? row.series = some samples ∧
        row.Rounds ⟨0⟩ (.ofMinutes 1) 3 samples := by
  have hnear : ∀ key samples, besideGrid.get? key = some samples →
      ∀ sample ∈ samples, Instant.IsWithinReach ⟨0⟩ sample.time := by
    intro key samples hsamples
    obtain ⟨_, rfl⟩ := Prod.mk.inj
      (List.mem_singleton.1 ((besideGrid.get?_eq_some_iff key samples).1 hsamples))
    decide
  have hkeys : besideGrid.keys = ["up"].map .text := rfl
  have hstep : 0 < (Duration.ofMinutes 1).micros := by decide
  have hslots : 0 < 3 := by decide
  obtain ⟨rows, hrows, _, hrounds⟩ := exists_rows_rounding hkeys hstep hslots hnear
  have hrow : assemble besideGrid ⟨0⟩ (.ofMinutes 1) 3 = .ok [⟨.text "up", "0 _ NaN"⟩] := by
    decide +kernel
  obtain rfl := Except.ok.inj (hrows.symm.trans hrow)
  exact ⟨_, hrow, by decide +kernel, hrounds _ (List.mem_singleton_self _)⟩

end RuleFixtures
