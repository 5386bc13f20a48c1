import Mathlib.Tactic
import RuleFixtures.Proofs.Fixtures.SampleText
import RuleFixtures.Proofs.Json.Order
import RuleFixtures.Proofs.Number.Quotient

/-!
The values of a row, slot by slot.

Samples are put into their slots one after the other, and a slot that is filled is left alone.
Since no sample is written as the mark of a missing value, a slot ends with the first sample that
falls in it.

* `slotOf_plus`: an instant on the grid of steps has the number of its step.
* `rowValues_eq`: a slot holds the text of the first sample in it, and the mark of a missing value
  if there is none.
* `tokens_rowOf`: the values of a row can be told apart at the blanks.
* `assemble_eq`: every series has a row, in the order of the keys.
-/

namespace RuleFixtures

/-! ### The number of a step -/

namespace Duration

/-- A positive duration is a positive natural of microseconds. -/
lemma exists_micros_eq {d : Duration} (h : 0 < d.micros) : ∃ n : ℕ, 0 < n ∧ d.micros = n :=
  ⟨d.micros.toNat, by omega, by omega⟩

end Duration

/-- On the grid of steps the rounded quotient is the number of the step. -/
theorem slotOf_plus (start : Instant) {step : Duration} (hstep : 0 < step.micros) {k : ℕ}
    (hk : k < 2 ^ 53) : slotOf start step (start.plus ⟨k * step.micros⟩) = .ok (k : ℤ) := by
  obtain ⟨d, hd, hmicros⟩ := Duration.exists_micros_eq hstep
  have hratio : ((start.plus ⟨k * step.micros⟩).since start).ratio? step =
      some (.ofRatio false (k * d) d) := by
    have hsince : start.micros + (k : ℤ) * d - start.micros = ((k * d : ℕ) : ℤ) := by
      push_cast
      ring
    simp only [Duration.ratio?, Instant.since, Instant.plus, hmicros, hsince]
    exact Binary64.ofIntRatio?_natCast (k * d) hd
  simp [slotOf, hratio, Binary64.roundToInt?_ofRatio_mul hd hk]

/-- Every instant has a nearest step, unless steps have no length. -/
lemma exists_slotOf (start : Instant) {step : Duration} (hstep : step.micros ≠ 0) (time : Instant) :
    ∃ slot, slotOf start step time = .ok slot := by
  simp [slotOf, Duration.ratio?, Binary64.ofIntRatio?, hstep]

/-! ### Filling the slots -/

/-- Is the slot the one of the step nearest to the sample? -/
def Sample.fallsIn (start : Instant) (step : Duration) (slot : ℕ) (sample : Sample) : Bool :=
  match slotOf start step sample.time with
  | .ok nearest => nearest = (slot : ℤ)
  | .error _ => false

/-- The text of a slot: that of the first sample in it. -/
def slotText (start : Instant) (step : Duration) (samples : List Sample) (slot : ℕ) : String :=
  match samples.find? (Sample.fallsIn start step slot) with
  | some sample => SampleText.write sample.value
  | none => missingValue

/-- A value goes into its slot if that misses one, and nowhere else. -/
lemma fillSlot_eq (values : List String) (slot : ℤ) (text : String) :
    fillSlot values slot text =
      values.mapIdx fun k value => if slot = k ∧ value = missingValue then text else value := by
  -- nothing changes unless the slot is there and misses a value
  have hkeep (h : ∀ k : ℕ, slot = k → values[k]? ≠ some missingValue) :
      values = values.mapIdx fun k value =>
        if slot = k ∧ value = missingValue then text else value := by
    refine List.ext_getElem? fun k => ?_
    rw [List.getElem?_mapIdx]
    cases hvalue : values[k]? with
    | none => rfl
    | some value =>
      have hslot : ¬ (slot = k ∧ value = missingValue) := by
        rintro ⟨hk, rfl⟩
        exact h k hk hvalue
      simp [hslot]
  unfold fillSlot
  split
  · next hneg => exact hkeep fun k hk => by omega
  · next hpos =>
    split
    · next hmissing =>
      refine List.ext_getElem? fun k => ?_
      rw [List.getElem?_mapIdx, List.getElem?_set]
      by_cases hk : slot.toNat = k
      · subst hk
        obtain ⟨hlt, hvalue⟩ := List.getElem?_eq_some_iff.1 hmissing
        have hslot : slot = (slot.toNat : ℤ) := by omega
        simp [hvalue, hlt, ← hslot]
      · have hslot : ¬ slot = (k : ℤ) := by omega
        simp [hk, hslot]
    · next hfilled =>
      refine hkeep fun k hk => ?_
      rwa [show slot.toNat = k from by omega] at hfilled

/-- What is put into the slots of a list of values. -/
lemma fillSlots_eq (start : Instant) {step : Duration} (hstep : step.micros ≠ 0)
    (samples : List Sample) (values : List String) :
    fillSlots start step values samples =
      .ok (values.mapIdx fun k value =>
        if value = missingValue then slotText start step samples k else value) := by
  induction samples generalizing values with
  | nil =>
    refine congrArg Except.ok (List.ext_getElem? fun k => ?_)
    rw [List.getElem?_mapIdx]
    cases hvalue : values[k]? with
    | none => rfl
    | some value => by_cases h : value = missingValue <;> simp [slotText, h]
  | cons sample rest ih =>
    obtain ⟨slot, hslot⟩ := exists_slotOf start hstep sample.time
    have hstep : fillSlots start step values (sample :: rest) =
        fillSlots start step (fillSlot values slot (SampleText.write sample.value)) rest := by
      simp only [fillSlots, hslot]
      rfl
    rw [hstep, ih, fillSlot_eq, List.mapIdx_mapIdx]
    refine congrArg Except.ok (List.ext_getElem? fun k => ?_)
    rw [List.getElem?_mapIdx, List.getElem?_mapIdx]
    refine congrArg (Option.map · values[k]?) (funext fun value => ?_)
    -- a slot that is filled stays so, since no written value reads as a missing one
    have hwritten := SampleText.write_ne_missingValue sample.value
    by_cases hvalue : value = missingValue
    · by_cases hk : slot = k
      · simp [slotText, Sample.fallsIn, hslot, hvalue, hk, hwritten]
      · simp [slotText, Sample.fallsIn, hslot, hvalue, hk]
    · simp [hvalue]

/-- A row holds the first sample of every slot. -/
theorem rowValues_eq (samples : List Sample) (start : Instant) {step : Duration}
    (hstep : step.micros ≠ 0) (slots : ℕ) :
    rowValues samples start step slots =
      .ok ((List.range slots).map (slotText start step samples)) := by
  rw [rowValues, fillSlots_eq start hstep]
  refine congrArg Except.ok (List.ext_getElem? fun k => ?_)
  rw [List.getElem?_mapIdx, List.getElem?_map, List.getElem?_replicate]
  by_cases hk : k < slots <;> simp [hk]

/-! ### Rows as texts -/

/-- The values of a row: what stands between its blanks. -/
def InputSeries.tokens (row : InputSeries) : List String :=
  (row.values.toList.splitOn ' ').map String.ofList

lemma blank_notMem_slotText (start : Instant) (step : Duration) (samples : List Sample) (slot : ℕ) :
    ' ' ∉ (slotText start step samples slot).toList := by
  unfold slotText
  split
  · exact SampleText.blank_notMem_write _
  · decide

/-- Values without blanks can be told apart in the row. -/
lemma tokens_intercalate (key : Json) {values : List String} (hne : values ≠ [])
    (hblank : ∀ value ∈ values, ' ' ∉ value.toList) :
    InputSeries.tokens ⟨key, String.intercalate " " values⟩ = values := by
  have hlists : (([' '] : List Char).intercalate (values.map String.toList)).splitOn ' ' =
      values.map String.toList := by
    refine List.splitOn_intercalate ' ' ?_ (by simpa using hne)
    intro l hl
    obtain ⟨value, hvalue, rfl⟩ := List.mem_map.1 hl
    exact hblank value hvalue
  rw [InputSeries.tokens, String.toList_intercalate]
  rw [show " ".toList = [' '] from rfl, hlists, List.map_map]
  simp

/-! ### The rows of a history -/

/-- The row of a key: the texts of its slots with blanks between them. -/
def rowOf (history : SampleHistory) (start : Instant) (step : Duration) (slots : ℕ) (key : Json) :
    InputSeries :=
  ⟨key, String.intercalate " "
    ((List.range slots).map (slotText start step ((history.get? key).getD [])))⟩

/-- The values that are read from a row are the texts of its slots. -/
theorem tokens_rowOf (history : SampleHistory) (start : Instant) (step : Duration) {slots : ℕ}
    (hslots : 0 < slots) (key : Json) :
    (rowOf history start step slots key).tokens =
      (List.range slots).map (slotText start step ((history.get? key).getD [])) := by
  refine tokens_intercalate key ?_ ?_
  · simpa using Nat.ne_of_gt hslots
  · intro value hvalue
    obtain ⟨k, _, rfl⟩ := List.mem_map.1 hvalue
    exact blank_notMem_slotText start step _ k

section Rows

variable (history : SampleHistory) (start : Instant) {step : Duration} (hstep : step.micros ≠ 0)
  (slots : ℕ)

include hstep

/-- A key gets its row. -/
lemma assembleRow_eq (key : Json) :
    assembleRow history start step slots key = .ok (rowOf history start step slots key) := by
  have hvalues := rowValues_eq ((history.get? key).getD []) start hstep slots
  simp only [assembleRow, hvalues]
  rfl

/-- Each key gets its row. -/
lemma assembleRows_eq (keys : List Json) :
    assembleRows history start step slots keys =
      .ok (keys.map (rowOf history start step slots)) := by
  induction keys with
  | nil => rfl
  | cons key rest ih =>
    rw [assembleRows, assembleRow_eq history start hstep slots key]
    simp only [bind, Except.bind, ih]
    rfl

/-- The rows of a history whose keys are texts come in the order of the texts. -/
theorem assemble_eq {texts : List String} (hkeys : history.keys = texts.map .text) :
    assemble history start step slots =
      .ok (((texts.mergeSort fun a b => decide (a ≤ b)).map .text).map
        (rowOf history start step slots)) := by
  rw [assemble, hkeys, Json.sortBy_text, ← assembleRows_eq history start hstep slots]
  rfl

end Rows

end RuleFixtures
