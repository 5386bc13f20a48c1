import RuleFixtures.Proofs.Fixtures.NearestStep

/-!
Samples outside the window of a row.

A row takes the samples nearest to its steps, and such a sample may have been taken up to half a
step before the first step or after the last one. If it comes first in its slot it is written there,
also when a sample of the window stands in the same slot.

* `SampleHistory.keep` leaves out samples.
* `slotText_filter_eq_iff`: the text of a slot stays the same if no sample that is left out was the
  first one in the slot with another text than the samples that are kept.
* `Sample.fallsIn_iff_spillsInto`: the samples outside the window that are in a slot lie within half
  a step of its ends.
* `assemble_inWindow_eq_iff`: when the samples outside the window make no difference to the rows.
-/

namespace RuleFixtures

/-- The history without the samples that do not pass a test. -/
def SampleHistory.keep (history : SampleHistory) (p : Sample → Bool) : SampleHistory where
  entries := history.entries.map fun entry => (entry.1, entry.2.filter p)
  nodup := by
    rw [List.map_map]
    exact history.nodup

namespace SampleHistory

variable (history : SampleHistory) (p : Sample → Bool)

@[simp]
lemma keys_keep : (history.keep p).keys = history.keys := List.map_map

lemma get?_keep {key : Json} {samples : List Sample} (h : history.get? key = some samples) :
    (history.keep p).get? key = some (samples.filter p) := by
  rw [OrderedMap.get?_eq_some_iff] at h ⊢
  exact List.mem_map_of_mem h

end SampleHistory

/-- Is the sample taken from the first step of a row to the last one? -/
def Sample.inWindow (start : Instant) (step : Duration) (slots : ℕ) (sample : Sample) : Bool :=
  decide (start.micros ≤ sample.time.micros ∧
    sample.time.micros ≤ start.micros + ((slots : ℤ) - 1) * step.micros)

/-- The sample lies before the first step or after the last one, and is nearest to this step. -/
def Sample.SpillsInto (start : Instant) (step : Duration) (slots k : ℕ) (sample : Sample) : Prop :=
  let early := start.micros - sample.time.micros
  let late := sample.time.micros - (start.micros + ((slots : ℤ) - 1) * step.micros)
  k = 0 ∧ 0 < early ∧ 2 * early ≤ step.micros ∨
    k + 1 = slots ∧ 0 < late ∧ 2 * late ≤ step.micros ∧ (2 * late = step.micros → k % 2 = 0)

instance (start : Instant) (step : Duration) (slots k : ℕ) (sample : Sample) :
    Decidable (sample.SpillsInto start step slots k) := by
  unfold Sample.SpillsInto; infer_instance

/-- A sample outside the window that is in a slot spills into it from beyond the nearer end. -/
theorem Sample.fallsIn_iff_spillsInto {start : Instant} {step : Duration} (hstep : 0 < step.micros)
    {slots k : ℕ} (hk : k < slots) {sample : Sample} (hnear : start.IsWithinReach sample.time)
    (hout : sample.inWindow start step slots = false) :
    sample.fallsIn start step k = true ↔ sample.SpillsInto start step slots k := by
  rw [Sample.fallsIn_iff hstep hnear, Instant.IsNearestStep, Rounding.IsNearest, SpillsInto]
  simp only [inWindow, decide_eq_false_iff_not, not_and_or, not_le] at hout
  generalize sample.time.micros = time at *
  generalize start.micros = start at *
  generalize step.micros = step at *
  -- a step of the row is the first one or later, and the last one or earlier
  have hfirst : k = 0 ∧ (k : ℤ) * step = 0 ∨ 0 < k ∧ step ≤ k * step := by
    rcases Nat.eq_zero_or_pos k with hzero | hpos
    · exact .inl ⟨hzero, by simp [hzero]⟩
    · exact .inr ⟨hpos, le_mul_of_one_le_left hstep.le (by exact_mod_cast hpos)⟩
  have hlast : k + 1 = slots ∧ (k : ℤ) * step = ((slots : ℤ) - 1) * step ∨
      k + 1 < slots ∧ k * step + step ≤ ((slots : ℤ) - 1) * step := by
    rcases Nat.lt_or_eq_of_le (Nat.succ_le_of_lt hk) with hlt | hend
    · refine .inr ⟨hlt, ?_⟩
      calc (k : ℤ) * step + step = (k + 1) * step := by ring
        _ ≤ (slots - 1) * step := mul_le_mul_of_nonneg_right (by omega) hstep.le
    · exact .inl ⟨hend, by rw [← hend]; push_cast; ring⟩
  have hdistance := abs_cases (time - start - k * step)
  generalize (k : ℤ) * step = here at *
  generalize ((slots : ℤ) - 1) * step = finish at *
  omega

/-! ### Leaving out samples -/

section LeavingOut

variable (start : Instant) (step : Duration) (k : ℕ)

lemma slotText_cons (sample : Sample) (rest : List Sample) :
    slotText start step (sample :: rest) k =
      if sample.fallsIn start step k then SampleText.write sample.value
      else slotText start step rest k := by
  rw [slotText, slotText, List.find?_cons]
  cases sample.fallsIn start step k <;> rfl

/-- If a sample of a list is the first one in a slot and is left out, the samples that are kept have
the same text for the slot. -/
def Harmless (p : Sample → Bool) (samples : List Sample) : Prop :=
  ∀ before sample after, samples = before ++ sample :: after →
    sample.fallsIn start step k → (∀ other ∈ before, other.fallsIn start step k = false) →
    p sample = false →
    slotText start step (after.filter p) k = SampleText.write sample.value

variable {start step k} {p : Sample → Bool}

lemma harmless_cons_of_fallsIn {sample : Sample} {rest : List Sample}
    (hsample : sample.fallsIn start step k) :
    Harmless start step k p (sample :: rest) ↔
      (p sample = false →
        slotText start step (rest.filter p) k = SampleText.write sample.value) := by
  constructor
  · intro h
    exact h [] sample rest rfl hsample (by simp)
  · intro h before first after hsplit _ hbefore hfirst
    cases before with
    | nil =>
      obtain ⟨rfl, rfl⟩ := List.cons.inj hsplit
      exact h hfirst
    | cons other before =>
      obtain ⟨rfl, _⟩ := List.cons.inj hsplit
      have hother := hbefore sample (List.mem_cons_self ..)
      rw [hsample] at hother
      cases hother

lemma harmless_cons_of_not_fallsIn {sample : Sample} {rest : List Sample}
    (hsample : sample.fallsIn start step k = false) :
    Harmless start step k p (sample :: rest) ↔ Harmless start step k p rest := by
  constructor
  · intro h before first after hsplit hfirst hbefore
    refine h (sample :: before) first after (congrArg (sample :: ·) hsplit) hfirst ?_
    exact List.forall_mem_cons.2 ⟨hsample, hbefore⟩
  · intro h before first after hsplit hfirst hbefore
    cases before with
    | nil =>
      obtain ⟨rfl, _⟩ := List.cons.inj hsplit
      rw [hsample] at hfirst
      cases hfirst
    | cons other before =>
      obtain ⟨_, hrest⟩ := List.cons.inj hsplit
      exact h before first after hrest hfirst (List.forall_mem_cons.1 hbefore).2

/-- The text of a slot stays the same without the samples that are left out if and only if these are
harmless. -/
theorem slotText_filter_eq_iff (samples : List Sample) :
    slotText start step (samples.filter p) k = slotText start step samples k ↔
      Harmless start step k p samples := by
  induction samples with
  | nil => simp [Harmless]
  | cons sample rest ih =>
    rw [slotText_cons]
    by_cases hsample : sample.fallsIn start step k
    · rw [harmless_cons_of_fallsIn hsample, if_pos hsample]
      by_cases hkept : p sample
      · rw [List.filter_cons_of_pos hkept, slotText_cons, if_pos hsample]
        simp [hkept]
      · rw [List.filter_cons_of_neg hkept]
        simp [hkept]
    · rw [harmless_cons_of_not_fallsIn (Bool.not_eq_true _ ▸ hsample), if_neg hsample, ← ih]
      by_cases hkept : p sample
      · rw [List.filter_cons_of_pos hkept, slotText_cons, if_neg hsample]
      · rw [List.filter_cons_of_neg hkept]

end LeavingOut

/-- The rows of two histories for a key are the same if the texts of the slots are. -/
lemma rowOf_eq_iff (history other : SampleHistory) (start : Instant) (step : Duration) {slots : ℕ}
    (hslots : 0 < slots) (key : Json) :
    rowOf history start step slots key = rowOf other start step slots key ↔
      ∀ k, k < slots → slotText start step ((history.get? key).getD []) k =
        slotText start step ((other.get? key).getD []) k := by
  constructor
  · intro hrow k hk
    have htokens := congrArg InputSeries.tokens hrow
    rw [tokens_rowOf history start step hslots, tokens_rowOf other start step hslots,
      List.map_inj_left] at htokens
    exact htokens k (List.mem_range.2 hk)
  · intro htexts
    rw [rowOf, rowOf]
    congr 2
    exact List.map_congr_left fun k hk => htexts k (List.mem_range.1 hk)

/-- Leaving out the samples outside the window leaves the rows as they are if and only if none of
these samples is the first one in a slot for which the samples of the window have another text. A
sample outside the window is in a slot if it is nearest to the first or the last step. -/
theorem assemble_inWindow_eq_iff {history : SampleHistory} {texts : List String}
    (hkeys : history.keys = texts.map .text) {start : Instant} {step : Duration}
    (hstep : 0 < step.micros) {slots : ℕ} (hslots : 0 < slots) :
    (assemble (history.keep (Sample.inWindow start step slots)) start step slots =
        assemble history start step slots ↔
      ∀ key samples, history.get? key = some samples → ∀ k, k < slots →
        Harmless start step k (Sample.inWindow start step slots) samples) ∧
    ∀ sample : Sample, sample.inWindow start step slots = false →
      start.IsWithinReach sample.time → ∀ k, k < slots →
        (sample.fallsIn start step k ↔ sample.SpillsInto start step slots k) := by
  constructor
  · have hkept := (history.keys_keep (Sample.inWindow start step slots)).trans hkeys
    rw [assemble_eq _ start hstep.ne' slots hkept, assemble_eq _ start hstep.ne' slots hkeys,
      Except.ok.injEq, List.map_inj_left]
    -- row by row, and slot by slot
    have hmem (key : Json) : key ∈ (texts.mergeSort fun a b => decide (a ≤ b)).map Json.text ↔
        ∃ samples, history.get? key = some samples := by
      rw [← Option.ne_none_iff_exists', Ne, OrderedMap.get?_eq_none_iff, not_not, hkeys,
        ((List.mergeSort_perm texts _).map Json.text).mem_iff]
    constructor
    · intro hrows key samples hsamples k hk
      have hrow := hrows key ((hmem key).2 ⟨_, hsamples⟩)
      have htext := (rowOf_eq_iff _ _ start step hslots key).1 hrow k hk
      rw [history.get?_keep _ hsamples, hsamples] at htext
      exact (slotText_filter_eq_iff samples).1 htext
    · intro hharmless key hkey
      obtain ⟨samples, hsamples⟩ := (hmem key).1 hkey
      refine (rowOf_eq_iff _ _ start step hslots key).2 fun k hk => ?_
      rw [history.get?_keep _ hsamples, hsamples]
      exact (slotText_filter_eq_iff samples).2 (hharmless key samples hsamples k hk)
  · intro sample hout hnear k hk
    exact Sample.fallsIn_iff_spillsInto hstep hk hnear hout

/-- Samples of which the first and the last one lie a step outside the window of six minutes. -/
def wholeStepOutside : SampleHistory where
  entries := [(.text "up", [⟨⟨-60000000⟩, Binary64.zero false⟩, ⟨⟨300000000⟩, .ofInt 6⟩,
    ⟨⟨360000000⟩, .ofInt 7⟩])]
  nodup := by decide

/-- They are in no slot, so their rows are the same without them. -/
theorem assemble_inWindow_wholeStepOutside :
    assemble (wholeStepOutside.keep (Sample.inWindow ⟨0⟩ (.ofMinutes 1) 6)) ⟨0⟩ (.ofMinutes 1) 6 =
      assemble wholeStepOutside ⟨0⟩ (.ofMinutes 1) 6 := by
  have hkeys : wholeStepOutside.keys = ["up"].map .text := rfl
  have hstep : 0 < (Duration.ofMinutes 1).micros := by decide
  have hslots : 0 < 6 := by decide
  have hnear : ∀ entry ∈ wholeStepOutside.entries, ∀ sample ∈ entry.2,
      Instant.IsWithinReach ⟨0⟩ sample.time := by decide
  have hfar : ∀ entry ∈ wholeStepOutside.entries, ∀ sample ∈ entry.2, ∀ k, k < 6 →
      ¬ sample.SpillsInto ⟨0⟩ (.ofMinutes 1) 6 k := by decide
  obtain ⟨hsame, hspills⟩ := assemble_inWindow_eq_iff hkeys hstep hslots
  refine hsame.2 fun key samples hsamples k hk before sample after hsplit hfalls _ hout => ?_
  have hentry := (wholeStepOutside.get?_eq_some_iff key samples).1 hsamples
  have hmem : sample ∈ samples := by simp [hsplit]
  have hspill := (hspills sample hout (hnear _ hentry sample hmem) k hk).1 hfalls
  exact absurd hspill (hfar _ hentry sample hmem k hk)

/-- A sample ten seconds before the first step, and samples at two steps. -/
def tenSecondsEarly : SampleHistory where
  entries := [(.text "up", [⟨⟨50000000⟩, .ofInt 5⟩, ⟨⟨60000000⟩, .ofInt 1⟩,
    ⟨⟨120000000⟩, .ofInt 2⟩])]
  nodup := by decide

/-- The row starts with the sample before the window. Without this sample it starts with the one at
the first step. -/
theorem assemble_tenSecondsEarly :
    assemble (tenSecondsEarly.keep (Sample.inWindow ⟨60000000⟩ (.ofMinutes 1) 2)) ⟨60000000⟩
        (.ofMinutes 1) 2 = .ok [⟨.text "up", "1 2"⟩] ∧
      assemble tenSecondsEarly ⟨60000000⟩ (.ofMinutes 1) 2 = .ok [⟨.text "up", "5 2"⟩] := by
  decide +kernel

end RuleFixtures
