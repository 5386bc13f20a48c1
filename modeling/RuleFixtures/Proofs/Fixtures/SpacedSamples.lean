import Mathlib.Data.List.Destutter
import RuleFixtures.Proofs.Fixtures.OutsideWindow
import RuleFixtures.Proofs.Number.Monotone

/-!
Rows of samples that are at least a step apart.

Such samples need not lie on the grid of steps, and two of them may have the same nearest step: if
the first lies in the middle before an even step and the second a step later, both are rounded to
that step, and only the first is written.

* `Sample.slot_mono`: the slots of samples after the start are in the order of time.
* `recorded_range`: the values of a row are those of the samples that come first in their slot.
* `Sample.sharesSlot_iff_crowds`: which neighbours have the same slot.
* `assemble_spaced`: a row has a value for every sample, in the order of time, if and only if no
  sample shares its slot with the next one.
-/

namespace RuleFixtures

/-! ### Slots in the order of time -/

/-- The number of the slot of a sample after the start. -/
def Sample.slot (start : Instant) (step : Duration) (sample : Sample) : ℕ :=
  Rounding.nearest
    (Binary64.ratioUnits (sample.time.micros - start.micros).toNat step.micros.toNat)
    Binary64.unitsOfOne

/-- Two samples have the same slot. -/
def Sample.SharesSlot (start : Instant) (step : Duration) (a b : Sample) : Prop :=
  slotOf start step a.time = slotOf start step b.time

instance (start : Instant) (step : Duration) : DecidableRel (Sample.SharesSlot start step) := by
  unfold Sample.SharesSlot; infer_instance

/-- Is the slot of the sample one of the row? -/
def Sample.inRow (start : Instant) (step : Duration) (slots : ℕ) (sample : Sample) : Bool :=
  match slotOf start step sample.time with
  | .ok slot => 0 ≤ slot && slot < slots
  | .error _ => false

lemma Instant.isRepresentable_iff {t : Instant} :
    t.isRepresentable ↔ -62135596800000000 ≤ t.micros ∧ t.micros ≤ 253402300799999999 := by
  rw [Instant.isRepresentable, Bool.and_eq_true, decide_eq_true_eq, decide_eq_true_eq]
  rfl

section Slot

variable {start : Instant} {step : Duration} (hstep : 0 < step.micros)

include hstep

/-- A sample after the start has its slot, unless the distance does not fit 63 bits. -/
lemma Sample.slotOf_eq_slot {sample : Sample} (hafter : start.micros ≤ sample.time.micros)
    (hnear : sample.time.micros - start.micros < 2 ^ 63) :
    slotOf start step sample.time = .ok (sample.slot start step : ℤ) := by
  obtain ⟨d, hd, hmicros⟩ := Duration.exists_micros_eq hstep
  obtain ⟨distance, hdistance⟩ := Int.eq_ofNat_of_zero_le (sub_nonneg.2 hafter)
  rw [hdistance] at hnear
  have hfits : distance < 2 ^ 63 := by exact_mod_cast hnear
  have hround := Binary64.roundToInt?_ofIntRatio_natCast hd hfits
  obtain ⟨quotient, hquotient, hslot⟩ := Option.bind_eq_some_iff.1 hround
  rw [slotOf, Duration.ratio?, Instant.since, hdistance, hmicros, hquotient, Sample.slot, hdistance,
    hmicros]
  simp only [hslot, Option.getD_some, Int.toNat_natCast]

/-- A later sample has a later slot or the same. -/
lemma Sample.slot_mono {a b : Sample} (h : a.time.micros ≤ b.time.micros) :
    a.slot start step ≤ b.slot start step := by
  refine Rounding.nearest_mono Binary64.unitsOfOne_pos (Binary64.ratioUnits_mono ?_ ?_)
  · omega
  · omega

end Slot

/-! ### The values of a row -/

/-- The text of a sample in a row. -/
def Sample.text (sample : Sample) : String := SampleText.write sample.value

/-- The values of a row that are not missing. -/
def InputSeries.recorded (row : InputSeries) : List String :=
  row.tokens.filter (· ≠ missingValue)

section Destutter

variable {α : Type} {f : α → ℕ}

/-- Relations that are the same on a list keep the same elements of it. -/
lemma destutter_congr {R S : α → α → Prop} [DecidableRel R] [DecidableRel S] {xs : List α}
    (h : ∀ a ∈ xs, ∀ b ∈ xs, R a b ↔ S a b) : xs.destutter R = xs.destutter S := by
  have hmap : (xs.destutter R).map id = (xs.map id).destutter S := List.map_destutter h
  rwa [List.map_id, List.map_id] at hmap

/-- Of elements with one number the first is kept. -/
lemma destutter'_eq_singleton {a : α} {rest : List α} (h : ∀ b ∈ rest, f b = f a) :
    rest.destutter' (fun a b => f a ≠ f b) a = [a] := by
  induction rest with
  | nil => rfl
  | cons b rest ih =>
    rw [List.forall_mem_cons] at h
    rw [List.destutter'_cons_neg rest (by simp [h.1]), ih h.2]

/-- Of elements with a new number at the end the first is kept. -/
lemma destutter_append {front back : List α} {n : ℕ} (hfront : ∀ a ∈ front, f a < n)
    (hback : ∀ a ∈ back, f a = n) :
    (front ++ back).destutter (fun a b => f a ≠ f b) =
      front.destutter (fun a b => f a ≠ f b) ++ back.head?.toList := by
  have hclass : ∀ b rest, back = b :: rest →
      rest.destutter' (fun a b => f a ≠ f b) b = [b] := by
    rintro b rest rfl
    rw [List.forall_mem_cons] at hback
    exact destutter'_eq_singleton fun c hc => (hback.2 c hc).trans hback.1.symm
  cases front with
  | nil =>
    cases back with
    | nil => rfl
    | cons b rest => exact hclass b rest rfl
  | cons a front =>
    rw [List.cons_append, List.destutter_cons', List.destutter_cons']
    -- the last element that was kept takes the place of the first one in each step
    induction front generalizing a with
    | nil =>
      cases back with
      | nil => rfl
      | cons b rest =>
        have hne : f a ≠ f b := by
          have hlt := hfront a (by simp)
          have heq := hback b (by simp)
          omega
        rw [List.nil_append, List.destutter'_cons_pos rest hne, hclass b rest rfl]
        rfl
    | cons c front ih =>
      rw [List.forall_mem_cons, List.forall_mem_cons] at hfront
      have hkept := ih c (List.forall_mem_cons.2 hfront.2)
      have hleft := ih a (List.forall_mem_cons.2 ⟨hfront.1, hfront.2.2⟩)
      rw [List.cons_append, List.destutter'_cons, List.destutter'_cons, hkept, hleft]
      split <;> rfl

/-- Elements in the order of their numbers: those below the next number are those below this one,
and then those with this one. -/
lemma filter_lt_succ {xs : List α} (h : xs.Pairwise fun a b => f a ≤ f b) (n : ℕ) :
    xs.filter (fun a => f a < n + 1) =
      xs.filter (fun a => f a < n) ++ xs.filter (fun a => f a = n) := by
  induction xs with
  | nil => rfl
  | cons a rest ih =>
    rw [List.pairwise_cons] at h
    have hrest := ih h.2
    -- an element with this number has none below it behind
    rcases lt_trichotomy (f a) n with hlt | heq | hgt
    · rw [List.filter_cons_of_pos (by simpa using hlt.le),
        List.filter_cons_of_pos (by simpa using hlt),
        List.filter_cons_of_neg (by simpa using hlt.ne), hrest, List.cons_append]
    · have hnone : rest.filter (fun b => f b < n) = [] := by
        refine List.filter_eq_nil_iff.2 fun b hb => ?_
        have := h.1 b hb
        simp only [decide_eq_true_eq]
        omega
      rw [hnone, List.nil_append] at hrest
      rw [List.filter_cons_of_pos (by simpa using heq.le),
        List.filter_cons_of_neg (by simpa using heq.ge),
        List.filter_cons_of_pos (by simpa using heq), hnone, hrest, List.nil_append]
    · rw [List.filter_cons_of_neg (by simpa using hgt),
        List.filter_cons_of_neg (by simpa using hgt.le),
        List.filter_cons_of_neg (by simpa using hgt.ne'), hrest]

end Destutter

/-- The values of a row that are not missing, for samples with slots in their order: those of the
samples that come first in their slot. -/
theorem recorded_range {start : Instant} {step : Duration} {samples : List Sample} {f : Sample → ℕ}
    (hf : ∀ sample ∈ samples, ∀ k, sample.fallsIn start step k = decide (f sample = k))
    (hmono : samples.Pairwise fun a b => f a ≤ f b) (slots : ℕ) :
    ((List.range slots).map (slotText start step samples)).filter (· ≠ missingValue) =
      ((samples.filter fun sample => f sample < slots).destutter fun a b => f a ≠ f b).map
        Sample.text := by
  induction slots with
  | zero => simp
  | succ n ih =>
    have hlast : [slotText start step samples n].filter (· ≠ missingValue) =
        (samples.filter fun sample => f sample = n).head?.toList.map Sample.text := by
      have hfind : samples.find? (Sample.fallsIn start step n) =
          (samples.filter fun sample => f sample = n).head? := by
        rw [List.head?_filter]
        exact List.find?_congr fun sample hsample => hf sample hsample n
      rw [slotText, hfind]
      cases (samples.filter fun sample => f sample = n).head? with
      | none => simp
      | some sample => simp [SampleText.write_ne_missingValue, Sample.text]
    rw [List.range_succ, List.map_append, List.filter_append, ih, List.map_singleton, hlast,
      ← List.map_append, filter_lt_succ hmono,
      destutter_append (n := n) (by simp) (by simp)]

/-! ### Samples a step apart -/

/-- The samples of a series lie in the window of a row, in the order of time and at least a step
apart. -/
structure Spaced (start : Instant) (step : Duration) (slots : ℕ) (samples : List Sample) :
    Prop where
  inCalendar : ∀ sample ∈ samples, sample.time.isRepresentable
  inWindow : ∀ sample ∈ samples, sample.inWindow start step slots
  apart : samples.IsChain fun a b => a.time.micros + step.micros ≤ b.time.micros

/-- The first sample lies in the middle before an even step, and the second a step later. -/
def Sample.Crowds (start : Instant) (step : Duration) (a b : Sample) : Prop :=
  b.time.micros = a.time.micros + step.micros ∧
    (2 * (a.time.micros - start.micros) + step.micros) % (4 * step.micros) = 0

instance (start : Instant) (step : Duration) : DecidableRel (Sample.Crowds start step) := by
  unfold Sample.Crowds; infer_instance

section Neighbours

variable {start : Instant} {step : Duration} (hstep : 0 < step.micros)

include hstep

/-- Neighbours that are at least a step apart have the same slot only if they lie in the middles
before and behind an even step. -/
theorem Sample.sharesSlot_iff_crowds {a b : Sample} (ha : start.IsWithinReach a.time)
    (hb : start.IsWithinReach b.time) (hapart : a.time.micros + step.micros ≤ b.time.micros) :
    a.SharesSlot start step b ↔ a.Crowds start step b := by
  rw [SharesSlot, Crowds]
  constructor
  · intro hshares
    obtain ⟨k, hk⟩ := exists_slotOf start hstep.ne' a.time
    obtain ⟨hbelow, heven⟩ := (slotOf_eq_ok_iff hstep ha).1 hk
    obtain ⟨habove, -⟩ := (slotOf_eq_ok_iff hstep hb).1 (hshares.symm.trans hk)
    -- each is at most half a step away from the slot, so both are exactly that
    have hfirst := abs_cases (a.time.micros - start.micros - k * step.micros)
    have hsecond := abs_cases (b.time.micros - start.micros - k * step.micros)
    have htie : 2 * (a.time.micros - start.micros) + step.micros = 2 * (k * step.micros) := by
      omega
    obtain ⟨m, rfl⟩ := Int.dvd_of_emod_eq_zero (heven (by omega))
    refine ⟨by omega, Int.emod_eq_zero_of_dvd ⟨m, ?_⟩⟩
    rw [htie]
    ring
  · rintro ⟨hnext, hmiddle⟩
    obtain ⟨m, hm⟩ := Int.dvd_of_emod_eq_zero hmiddle
    have htie : 2 * (a.time.micros - start.micros) + step.micros = 2 * (2 * m * step.micros) := by
      rw [hm]
      ring
    have hfirst := abs_cases (a.time.micros - start.micros - 2 * m * step.micros)
    have hsecond := abs_cases (b.time.micros - start.micros - 2 * m * step.micros)
    rw [(slotOf_eq_ok_iff hstep ha (k := 2 * m)).2 ⟨by omega, fun _ => by omega⟩,
      (slotOf_eq_ok_iff hstep hb (k := 2 * m)).2 ⟨by omega, fun _ => by omega⟩]

/-- A sample in the window that is not too far from the start has a slot in the row. -/
lemma Sample.inRow_of_inWindow {slots : ℕ} {sample : Sample}
    (hnear : start.IsWithinReach sample.time) (hwindow : sample.inWindow start step slots) :
    sample.inRow start step slots := by
  obtain ⟨k, hk⟩ := exists_slotOf start hstep.ne' sample.time
  obtain ⟨hclose, -⟩ := (slotOf_eq_ok_iff hstep hnear).1 hk
  obtain ⟨hfirst, hlast⟩ := of_decide_eq_true hwindow
  have hdistance := abs_cases (sample.time.micros - start.micros - k * step.micros)
  rw [sub_one_mul] at hlast
  have hpos : -1 < k := by
    refine lt_of_mul_lt_mul_right ?_ hstep.le
    omega
  have hfrom : 0 ≤ k := by omega
  have hbelow : k < slots := by
    refine lt_of_mul_lt_mul_right ?_ hstep.le
    omega
  simp only [inRow, hk]
  simp [hfrom, hbelow]

end Neighbours

/-- A row with a value for each slot, made of samples a step apart. -/
structure InputSeries.Places (row : InputSeries) (start : Instant) (step : Duration) (slots : ℕ)
    (samples : List Sample) : Prop where
  length : row.tokens.length = slots
  /-- The values are those of the samples in the row, but for one that shares the slot of the sample
  before it. -/
  recorded : row.recorded = ((samples.filter (Sample.inRow start step slots)).destutter
    fun a b => ¬ a.SharesSlot start step b).map Sample.text
  /-- So all samples have a value if each has a slot of its own. -/
  recorded_eq_iff : row.recorded = samples.map Sample.text ↔
    samples.IsChain (fun a b => ¬ a.SharesSlot start step b) ∧
      ∀ sample ∈ samples, sample.inRow start step slots
  /-- Not too far from the start this fails in one way only. -/
  recorded_eq_iff_of_near : (∀ sample ∈ samples, start.IsWithinReach sample.time) →
    (row.recorded = samples.map Sample.text ↔
      samples.IsChain fun a b => ¬ a.Crowds start step b)

/-- A list without some elements, and without those that may not follow the one before, is written
as the list itself only if nothing was taken away. -/
lemma map_destutter_filter_eq_iff {α β : Type} {R : α → α → Prop} [DecidableRel R] {p : α → Bool}
    {g : α → β} (xs : List α) :
    ((xs.filter p).destutter R).map g = xs.map g ↔ xs.IsChain R ∧ ∀ x ∈ xs, p x := by
  constructor
  · intro h
    have hlength := congrArg List.length h
    rw [List.length_map, List.length_map] at hlength
    have hkept := List.destutter_sublist R (xs.filter p)
    have hfilter : xs.filter p = xs :=
      List.filter_sublist.eq_of_length_le (hlength.symm.le.trans hkept.length_le)
    have hall := hkept.eq_of_length (by rw [hlength, hfilter])
    rw [hfilter] at hall
    exact ⟨(List.destutter_eq_self_iff R xs).1 hall, List.filter_eq_self.1 hfilter⟩
  · rintro ⟨hchain, hall⟩
    rw [List.filter_eq_self.2 hall, List.destutter_of_isChain R xs hchain]

section Rows

variable {start : Instant} {step : Duration} (hstart : start.isRepresentable)
  (hstep : 0 < step.micros) {slots : ℕ} {samples : List Sample}
  (hspaced : Spaced start step slots samples)

include hstart hstep hspaced

/-- The samples have slots in their order. -/
lemma Spaced.slotOf_eq {sample : Sample} (hsample : sample ∈ samples) :
    slotOf start step sample.time = .ok (sample.slot start step : ℤ) := by
  have hfirst := (Instant.isRepresentable_iff.1 hstart).1
  have hlast := (Instant.isRepresentable_iff.1 (hspaced.inCalendar sample hsample)).2
  exact Sample.slotOf_eq_slot hstep (of_decide_eq_true (hspaced.inWindow sample hsample)).1
    (by omega)

lemma Spaced.recorded_eq :
    ((List.range slots).map (slotText start step samples)).filter (· ≠ missingValue) =
      ((samples.filter (Sample.inRow start step slots)).destutter
        fun a b => ¬ a.SharesSlot start step b).map Sample.text := by
  have hfalls : ∀ sample ∈ samples, ∀ k,
      sample.fallsIn start step k = decide (sample.slot start step = k) := by
    intro sample hsample k
    simp only [Sample.fallsIn, hspaced.slotOf_eq hstart hstep hsample]
    exact decide_eq_decide.2 Nat.cast_inj
  have hmono : samples.Pairwise fun a b => a.slot start step ≤ b.slot start step := by
    have hchain : (samples.map fun sample => sample.slot start step).IsChain (· ≤ ·) :=
      List.isChain_map_of_isChain _ (fun a b h => Sample.slot_mono hstep (by omega)) hspaced.apart
    exact List.pairwise_map.1 hchain.pairwise
  have hrow : samples.filter (Sample.inRow start step slots) =
      samples.filter fun sample => sample.slot start step < slots := by
    refine List.filter_congr fun sample hsample => ?_
    simp only [Sample.inRow, hspaced.slotOf_eq hstart hstep hsample]
    generalize sample.slot start step = k
    simp
  rw [recorded_range hfalls hmono, hrow]
  refine congrArg (List.map Sample.text) (destutter_congr fun a ha b hb => ?_)
  rw [Sample.SharesSlot, hspaced.slotOf_eq hstart hstep (List.mem_of_mem_filter ha),
    hspaced.slotOf_eq hstart hstep (List.mem_of_mem_filter hb), Except.ok.injEq, Nat.cast_inj]

/-- A row whose values are the texts of the slots is made of the samples. -/
lemma Spaced.places {row : InputSeries}
    (htokens : row.tokens = (List.range slots).map (slotText start step samples)) :
    row.Places start step slots samples := by
  have hrecorded : row.recorded = ((samples.filter (Sample.inRow start step slots)).destutter
      fun a b => ¬ a.SharesSlot start step b).map Sample.text := by
    rw [InputSeries.recorded, htokens, hspaced.recorded_eq hstart hstep]
  have hall := map_destutter_filter_eq_iff (R := fun a b => ¬ a.SharesSlot start step b)
    (p := Sample.inRow start step slots) (g := Sample.text) samples
  rw [← hrecorded] at hall
  refine ⟨by rw [htokens, List.length_map, List.length_range], hrecorded, hall, fun hnear => ?_⟩
  have hrow : ∀ sample ∈ samples, sample.inRow start step slots := fun sample hsample =>
    Sample.inRow_of_inWindow hstep (hnear sample hsample) (hspaced.inWindow sample hsample)
  rw [hall, and_iff_left hrow, List.isChain_iff_forall_rel_of_append_cons_cons,
    List.isChain_iff_forall_rel_of_append_cons_cons]
  have happart := List.isChain_iff_forall_rel_of_append_cons_cons.1 hspaced.apart
  -- neighbours share a slot only if they crowd
  have hneighbours {a b : Sample} {before after : List Sample}
      (hsplit : samples = before ++ a :: b :: after) :
      a.SharesSlot start step b ↔ a.Crowds start step b :=
    Sample.sharesSlot_iff_crowds hstep (hnear a (by simp [hsplit])) (hnear b (by simp [hsplit]))
      (happart hsplit)
  constructor
  · intro h a b before after hsplit
    exact mt (hneighbours hsplit).2 (h hsplit)
  · intro h a b before after hsplit
    exact mt (hneighbours hsplit).1 (h hsplit)

end Rows

/-- A history of samples that are at least a step apart has a row for each key, in the order of the
keys. Its values that are not missing are the samples in the order of time, one for each, unless a
sample shares its slot with the next one: it lies in the middle before an even step, and the next
one a step later. -/
theorem assemble_spaced {history : SampleHistory} {texts : List String}
    (hkeys : history.keys = texts.map .text) {start : Instant} {step : Duration} {slots : ℕ}
    (hstart : start.isRepresentable) (hstep : 0 < step.micros) (hslots : 0 < slots)
    (hspaced : ∀ key samples, history.get? key = some samples →
      Spaced start step slots samples) :
    ∃ rows, assemble history start step slots = .ok rows ∧
      rows.map InputSeries.series = (texts.mergeSort fun a b => decide (a ≤ b)).map .text ∧
      ∀ row ∈ rows, ∃ samples, history.get? row.series = some samples ∧
        row.Places start step slots samples := by
  refine ⟨_, assemble_eq history start hstep.ne' slots hkeys, ?_, ?_⟩
  · rw [List.map_map]
    exact List.map_id _
  · intro row hrow
    obtain ⟨key, hkey, rfl⟩ := List.mem_map.1 hrow
    have hknown : key ∈ history.keys := by
      rw [hkeys]
      simpa using hkey
    obtain ⟨samples, hsamples⟩ := Option.ne_none_iff_exists'.1
      (mt (history.get?_eq_none_iff key).1 (not_not.2 hknown))
    refine ⟨samples, hsamples, (hspaced key samples hsamples).places hstart hstep ?_⟩
    rw [tokens_rowOf history start step hslots key, hsamples, Option.getD_some]

/-- Samples beside the grid of minutes, of which the second lies in the middle between two steps. -/
def besideMinutes : SampleHistory where
  entries := [(.text "up", [⟨⟨10000000⟩, .ofInt 1⟩, ⟨⟨90000000⟩, .ofInt 2⟩,
    ⟨⟨160000000⟩, .ofInt 3⟩])]
  nodup := by decide

/-- Each of them has its value in the row. -/
theorem assemble_spaced_besideMinutes :
    ∃ row, assemble besideMinutes ⟨0⟩ (.ofMinutes 1) 4 = .ok [row] ∧
      row.tokens = ["1", "_", "2", "3"] ∧ ∃ samples, besideMinutes.get? row.series = some samples ∧
        row.Places ⟨0⟩ (.ofMinutes 1) 4 samples ∧ row.recorded = samples.map Sample.text := by
  have hentry : ∀ key samples, besideMinutes.get? key = some samples →
      (key, samples) ∈ besideMinutes.entries :=
    fun key samples => (besideMinutes.get?_eq_some_iff key samples).1
  have hspaced : ∀ key samples, besideMinutes.get? key = some samples →
      Spaced ⟨0⟩ (.ofMinutes 1) 4 samples := by
    intro key samples hsamples
    obtain ⟨_, rfl⟩ := Prod.mk.inj (List.mem_singleton.1 (hentry key samples hsamples))
    exact ⟨by decide, by decide, by decide⟩
  have hkeys : besideMinutes.keys = ["up"].map .text := rfl
  have hstart : Instant.isRepresentable ⟨0⟩ := by decide
  have hstep : 0 < (Duration.ofMinutes 1).micros := by decide
  have hslots : 0 < 4 := by decide
  obtain ⟨rows, hrows, _, hplaces⟩ := assemble_spaced hkeys hstart hstep hslots hspaced
  -- the row itself is computed, what it holds follows from the theorem
  have hrow : assemble besideMinutes ⟨0⟩ (.ofMinutes 1) 4 = .ok [⟨.text "up", "1 _ 2 3"⟩] := by
    decide +kernel
  obtain rfl := Except.ok.inj (hrows.symm.trans hrow)
  obtain ⟨samples, hsamples, hplace⟩ := hplaces _ (List.mem_singleton_self _)
  obtain ⟨_, rfl⟩ := Prod.mk.inj (List.mem_singleton.1 (hentry _ samples hsamples))
  refine ⟨_, hrow, by decide +kernel, _, hsamples, hplace, ?_⟩
  exact (hplace.recorded_eq_iff_of_near (by decide)).2 (by decide)

/-- Samples in the middles before and behind the second minute. -/
def aroundSecondMinute : SampleHistory where
  entries := [(.text "up", [⟨⟨90000000⟩, .ofInt 1⟩, ⟨⟨150000000⟩, .ofInt 2⟩])]
  nodup := by decide

/-- They are a step apart in the window, and the row has a value for the first only. -/
theorem assemble_aroundSecondMinute :
    (∀ key samples, aroundSecondMinute.get? key = some samples →
      samples.length = 2 ∧ Spaced ⟨0⟩ (.ofMinutes 1) 4 samples) ∧
    assemble aroundSecondMinute ⟨0⟩ (.ofMinutes 1) 4 = .ok [⟨.text "up", "_ _ 1 _"⟩] ∧
    InputSeries.recorded ⟨.text "up", "_ _ 1 _"⟩ = ["1"] := by
  refine ⟨fun key samples hsamples => ?_, by decide +kernel, by decide +kernel⟩
  obtain ⟨_, rfl⟩ := Prod.mk.inj
    (List.mem_singleton.1 ((aroundSecondMinute.get?_eq_some_iff key samples).1 hsamples))
  exact ⟨rfl, by decide, by decide, by decide⟩

end RuleFixtures
