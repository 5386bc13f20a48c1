import RuleFixtures.Proofs.Fixtures.Row
import RuleFixtures.Proofs.Fixtures.Window

/-!
The rows of a history whose samples lie on the grid of steps.

* `Stream.OnGrid` holds of series with samples at distinct instants of the grid in a window.
* `Generator.slots_eq`: a row has a slot for each step of the window, both ends included.
* `Generator.exists_inputRows`: rows hold, step by step, the samples of the first series of their
  key.
* `Generator.rows_of_history`: so the window is queried metric by metric, and the rows that are
  made of the answers keep every sample in its place.
-/

namespace RuleFixtures

/-! ### Samples on the grid -/

/-- The instant a number of steps after another. -/
def Instant.afterSteps (start : Instant) (step : Duration) (k : ℕ) : Instant :=
  start.plus ⟨k * step.micros⟩

lemma Instant.afterSteps_micros (start : Instant) (step : Duration) (k : ℕ) :
    (start.afterSteps step k).micros = start.micros + k * step.micros := rfl

/-- The samples lie at distinct instants, each a number of steps after the start and not after the
end. -/
def Stream.OnGrid (start finish : Instant) (step : Duration) (stream : Stream) : Prop :=
  (stream.samples.map Sample.time).Nodup ∧
    ∀ sample ∈ stream.samples, sample.time.micros ≤ finish.micros ∧
      ∃ k : ℕ, sample.time = start.afterSteps step k

/-- The call is answered, and the series it brings in have texts as labels and samples on the
grid. -/
def Exchange.OnGrid (start finish : Instant) (step : Duration) (call : Exchange) : Prop :=
  call.isAnswered ∧
    ∀ stream ∈ call.streams, stream.labels.AreTexts ∧ stream.OnGrid start finish step

/-- A row with a value for each slot, which holds the samples at their steps and nothing else. -/
structure InputSeries.Holds (row : InputSeries) (start : Instant) (step : Duration) (slots : ℤ)
    (samples : List Sample) : Prop where
  length : (row.tokens.length : ℤ) = slots
  placed : ∀ sample ∈ samples, ∃ k, k < row.tokens.length ∧
    sample.time = start.afterSteps step k
  written : ∀ sample ∈ samples, ∀ k, sample.time = start.afterSteps step k →
    row.tokens[k]? = some (SampleText.write sample.value)
  missing : ∀ k, k < row.tokens.length →
    (∀ sample ∈ samples, sample.time ≠ start.afterSteps step k) →
    row.tokens[k]? = some missingValue

/-- A sample on the grid falls in the slot of its step. -/
lemma Sample.fallsIn_afterSteps {start : Instant} {step : Duration} (hstep : 0 < step.micros)
    {sample : Sample} {j k : ℕ} (hk : k < 2 ^ 53) (htime : sample.time = start.afterSteps step k) :
    sample.fallsIn start step j = decide (k = j) := by
  have hslot := slotOf_plus start hstep hk
  simp [Sample.fallsIn, htime, Instant.afterSteps, hslot]

section Grid

variable {alignment : Instant} {lookback step : Duration} {stream : Stream}

/-- The steps of a window are no more than its microseconds. -/
lemma step_lt_of_le (hlimit : lookback.micros < 2 ^ 53) (hstep : 0 < step.micros) {k : ℕ}
    (hk : ((alignment.minus lookback).afterSteps step k).micros ≤ alignment.micros) :
    k * step.micros ≤ lookback.micros ∧ k < 2 ^ 53 := by
  rw [Instant.afterSteps_micros, Instant.minus] at hk
  have hle : k * step.micros ≤ lookback.micros := by
    simp only at hk
    omega
  have hone : (k : ℤ) * 1 ≤ k * step.micros := by gcongr; omega
  exact ⟨hle, by omega⟩

/-- Of samples on the grid the one at a step is written in the slot of the step. -/
lemma slotText_of_mem (hlimit : lookback.micros < 2 ^ 53) (hstep : 0 < step.micros)
    (hgrid : stream.OnGrid (alignment.minus lookback) alignment step) {sample : Sample}
    (hsample : sample ∈ stream.samples) {k : ℕ}
    (htime : sample.time = (alignment.minus lookback).afterSteps step k) :
    slotText (alignment.minus lookback) step stream.samples k = SampleText.write sample.value := by
  obtain ⟨hnodup, hsamples⟩ := hgrid
  have hk := (step_lt_of_le hlimit hstep (htime ▸ (hsamples sample hsample).1)).2
  have hfalls : sample.fallsIn (alignment.minus lookback) step k = true := by
    rw [Sample.fallsIn_afterSteps hstep hk htime, decide_eq_true rfl]
  obtain ⟨found, hfound⟩ := Option.isSome_iff_exists.1
    (List.find?_isSome.2 ⟨sample, hsample, hfalls⟩)
  have hmem := List.mem_of_find?_eq_some hfound
  obtain ⟨hle, j, hj⟩ := hsamples found hmem
  have hjk : j = k := by
    have hslot := List.find?_some hfound
    rw [hj] at hle
    rw [Sample.fallsIn_afterSteps hstep (step_lt_of_le hlimit hstep hle).2 hj] at hslot
    exact of_decide_eq_true hslot
  have hsame : found = sample :=
    List.inj_on_of_nodup_map hnodup hmem hsample (by rw [hj, hjk, htime])
  rw [slotText, hfound, hsame]

/-- Without a sample at a step the slot of the step misses a value. -/
lemma slotText_of_forall_ne (hlimit : lookback.micros < 2 ^ 53) (hstep : 0 < step.micros)
    (hgrid : stream.OnGrid (alignment.minus lookback) alignment step) {k : ℕ}
    (hne : ∀ sample ∈ stream.samples,
      sample.time ≠ (alignment.minus lookback).afterSteps step k) :
    slotText (alignment.minus lookback) step stream.samples k = missingValue := by
  have hnone : stream.samples.find? (Sample.fallsIn (alignment.minus lookback) step k) = none := by
    rw [List.find?_eq_none]
    intro sample hsample hfalls
    obtain ⟨hle, j, hj⟩ := hgrid.2 sample hsample
    rw [hj] at hle
    rw [Sample.fallsIn_afterSteps hstep (step_lt_of_le hlimit hstep hle).2 hj] at hfalls
    exact hne sample hsample (of_decide_eq_true hfalls ▸ hj)
  rw [slotText, hnone]

/-- A row with the texts of the slots holds the samples. -/
lemma InputSeries.holds_of_tokens (hlimit : lookback.micros < 2 ^ 53)
    (hstep : 0 < step.micros) (hgrid : stream.OnGrid (alignment.minus lookback) alignment step)
    (hlookback : 0 ≤ lookback.micros) {row : InputSeries}
    (htokens : row.tokens = (List.range (lookback.micros / step.micros + 1).toNat).map
      (slotText (alignment.minus lookback) step stream.samples)) :
    row.Holds (alignment.minus lookback) step (lookback.micros / step.micros + 1)
      stream.samples := by
  have hnonneg := Int.ediv_nonneg hlookback hstep.le
  have hlength : row.tokens.length = (lookback.micros / step.micros + 1).toNat := by
    rw [htokens, List.length_map, List.length_range]
  -- a sample before the end of the window is in one of its slots
  have hlast {sample : Sample} (hsample : sample ∈ stream.samples) {k : ℕ}
      (htime : sample.time = (alignment.minus lookback).afterSteps step k) :
      k < row.tokens.length := by
    have hle := (step_lt_of_le hlimit hstep (htime ▸ (hgrid.2 sample hsample).1)).1
    have hk : (k : ℤ) ≤ lookback.micros / step.micros := (Int.le_ediv_iff_mul_le hstep).2 hle
    omega
  have hslot {k : ℕ} (hk : k < row.tokens.length) :
      row.tokens[k]? = some (slotText (alignment.minus lookback) step stream.samples k) := by
    rw [htokens, List.getElem?_map, List.getElem?_range (hlength ▸ hk), Option.map_some]
  constructor
  case length => omega
  case placed =>
    intro sample hsample
    obtain ⟨_, k, hk⟩ := hgrid.2 sample hsample
    exact ⟨k, hlast hsample hk, hk⟩
  case written =>
    intro sample hsample k htime
    rw [hslot (hlast hsample htime), slotText_of_mem hlimit hstep hgrid hsample htime]
  case missing =>
    intro k hk hne
    rw [hslot hk, slotText_of_forall_ne hlimit hstep hgrid hne]

end Grid

namespace Generator

variable (g : Generator)

/-! ### The number of slots -/

/-- A row has a slot for each step of the window, and one for its start. -/
theorem slots_eq (hlookback : 0 ≤ g.lookback.micros) (hlimit : g.lookback.micros < 2 ^ 53)
    (hstep : 0 < g.step.micros) : g.slots = .ok (g.lookback.micros / g.step.micros + 1) := by
  obtain ⟨d, hd, hmicros⟩ := Duration.exists_micros_eq hstep
  obtain ⟨n, hn⟩ := Int.eq_ofNat_of_zero_le hlookback
  have hratio : g.lookback.ratio? g.step = some (.ofRatio false n d) := by
    rw [Duration.ratio?, hmicros, hn]
    exact Binary64.ofIntRatio?_natCast n hd
  have hn53 : n < 2 ^ 53 := by omega
  simp [slots, hratio, Binary64.truncate?_ofRatio hd hn53, hmicros, hn]

/-- A window of whole steps may be longer: the limit is on the number of its steps. -/
lemma slots_eq_of_mul {q : ℕ} (hq : q < 2 ^ 53) (hstep : 0 < g.step.micros)
    (hlookback : g.lookback.micros = q * g.step.micros) : g.slots = .ok ((q : ℤ) + 1) := by
  obtain ⟨d, hd, hmicros⟩ := Duration.exists_micros_eq hstep
  have hratio : g.lookback.ratio? g.step = some (.ofRatio false (q * d) d) := by
    rw [Duration.ratio?, hlookback, hmicros, ← Nat.cast_mul]
    exact Binary64.ofIntRatio?_natCast (q * d) hd
  simp [slots, hratio, Binary64.truncate?_ofRatio_mul hd hq]

/-- Only steps without length make the number of slots fail. -/
lemma exists_slots (hstep : g.step.micros ≠ 0) : ∃ slots, g.slots = .ok slots := by
  simp [slots, Duration.ratio?, Binary64.ofIntRatio?, hstep]

lemma slots_eq_error (hstep : g.step.micros = 0) : g.slots = .error .divisionByZero := by
  simp [slots, Duration.ratio?, Binary64.ofIntRatio?, hstep]

/-! ### Rows -/

/-- The rows of a history whose keys are texts. -/
lemma inputRows_eq (hstep : g.step.micros ≠ 0) {alignment : Instant}
    (hstart : (alignment.minus g.lookback).isRepresentable) {slots : ℤ}
    (hslots : g.slots = .ok slots) {history : Accumulator} {texts : List String}
    (hkeys : history.keys = texts.map .text) :
    g.inputRows history alignment =
      .ok (((texts.mergeSort fun a b => decide (a ≤ b)).map .text).map
        (rowOf history (alignment.minus g.lookback) g.step slots.toNat)) := by
  rw [inputRows, windowStart_eq hstart, hslots,
    ← assemble_eq history (alignment.minus g.lookback) hstep slots.toNat hkeys]
  rfl

/-- Steps without length make the rows fail. -/
lemma inputRows_eq_error (hstep : g.step.micros = 0) {alignment : Instant}
    (hstart : (alignment.minus g.lookback).isRepresentable) (history : Accumulator) :
    g.inputRows history alignment = .error (.range .divisionByZero) := by
  rw [inputRows, windowStart_eq hstart, g.slots_eq_error hstep]
  rfl

/-- The rows of a history that was collected from series: one for each of their keys, in the order
of the keys, with the samples of the first series of the key. -/
theorem exists_inputRows (hstep : g.step.micros ≠ 0) {slots : ℤ} (hslots : g.slots = .ok slots)
    (hpos : 0 < slots) {alignment : Instant}
    (hstart : (alignment.minus g.lookback).isRepresentable) {history : Accumulator}
    {streams : List Stream} (hcollected : Collected .empty streams history)
    (htexts : ∀ stream ∈ streams, stream.labels.AreTexts) :
    ∃ rows, ∃ keys : List String, g.inputRows history alignment = .ok rows ∧
      rows.map InputSeries.series = keys.map .text ∧ keys.Pairwise (· < ·) ∧
      (∀ key, key ∈ keys ↔ ∃ stream ∈ streams, stream.key = .ok (.text key)) ∧
      ∀ row ∈ rows, ∃ first, firstWith row.series streams = some first ∧
        row.tokens = (List.range slots.toNat).map
          (slotText (alignment.minus g.lookback) g.step first.samples) := by
  obtain ⟨texts, htext⟩ := hcollected.exists_texts htexts
  have hmem (key : String) :
      key ∈ texts ↔ ∃ stream ∈ streams, stream.key = .ok (.text key) := by
    rw [← hcollected.mem_keys_iff, htext, List.mem_map_of_injective fun _ _ => Json.text.inj]
  have hnodup : texts.Nodup := by
    have hnodup : history.keys.Nodup := history.nodup
    rw [htext] at hnodup
    exact hnodup.of_map
  have hrows := g.inputRows_eq hstep hstart hslots htext
  -- the keys of the history are sorted, and each of them leads to its row
  refine ⟨_, texts.mergeSort fun a b => decide (a ≤ b), hrows, ?_, pairwise_lt_mergeSort hnodup,
    fun key => by rw [List.mem_mergeSort, hmem], ?_⟩
  · rw [List.map_map]
    exact List.map_id _
  · intro row hrow
    obtain ⟨key, hkey, rfl⟩ := List.mem_map.1 hrow
    have hknown : key ∈ history.keys := by
      rw [htext]
      simpa using hkey
    have hget : history.get? key = (firstWith key streams).map Stream.samples := by
      rw [hcollected key]
      rfl
    have htokens := tokens_rowOf history (alignment.minus g.lookback) g.step
      (show 0 < slots.toNat from by omega) key
    cases hfirst : firstWith key streams with
    | none =>
      rw [hfirst, Option.map_none, OrderedMap.get?_eq_none_iff] at hget
      exact absurd hknown hget
    | some first =>
      rw [hfirst, Option.map_some] at hget
      exact ⟨first, hfirst, by rw [htokens, hget, Option.getD_some]⟩

/-- The metrics are queried one after the other over the window. If every answer comes and brings
samples on the grid only, the rows are strictly ascending by the keys that were seen, and each
holds the samples of the first series of its key. -/
theorem rows_of_history {σ : Type} [Log.Journal σ] (gateway : Gateway σ)
    (hlookback : 0 ≤ g.lookback.micros) (hlimit : g.lookback.micros < 2 ^ 53)
    (hstep : 0 < g.step.micros) (queries : List String) {alignment : Instant}
    (hstart : (alignment.minus g.lookback).isRepresentable) (s : σ) :
    ∃ calls result final,
      Act.Runs gateway (g.history gateway.recorded queries alignment)
        (g.history gateway queries alignment) s calls result final ∧
      ((∀ call ∈ calls, call.OnGrid (alignment.minus g.lookback) alignment g.step) →
        Window (alignment.minus g.lookback) alignment g.step queries calls result ∧
        ∃ history rows, ∃ keys : List String,
          result = .ok history ∧ g.inputRows history alignment = .ok rows ∧
          rows.map InputSeries.series = keys.map .text ∧ keys.Pairwise (· < ·) ∧
          (∀ key, key ∈ keys ↔
            ∃ stream ∈ calls.flatMap Exchange.streams, stream.key = .ok (.text key)) ∧
          ∀ row ∈ rows, ∃ first,
            firstWith row.series (calls.flatMap Exchange.streams) = some first ∧
            row.Holds (alignment.minus g.lookback) g.step (g.lookback.micros / g.step.micros + 1)
              first.samples) := by
  obtain ⟨calls, result, final, hruns, hspec⟩ := g.runs_history gateway queries hstart s
  refine ⟨calls, result, final, hruns, fun hgrid => ?_⟩
  have htexts : ∀ call ∈ calls, call.TextLabelled := fun call hcall stream hstream =>
    ((hgrid call hcall).2 stream hstream).1
  have hstreams : ∀ stream ∈ calls.flatMap Exchange.streams,
      stream.OnGrid (alignment.minus g.lookback) alignment g.step :=
    List.forall_mem_flatMap.2 fun call hcall stream hstream =>
      ((hgrid call hcall).2 stream hstream).2
  -- every answer comes, so the whole window is gone through
  obtain ⟨hwindow, hcollected⟩ := hspec htexts
  obtain ⟨history, rfl⟩ := hwindow.exists_ok fun call hcall => (hgrid call hcall).1
  have hpos : 0 < g.lookback.micros / g.step.micros + 1 := by
    have := Int.ediv_nonneg hlookback hstep.le
    omega
  obtain ⟨rows, keys, hrows, hseries, hsorted, hkeys, htokens⟩ := g.exists_inputRows hstep.ne'
    (g.slots_eq hlookback hlimit hstep) hpos hstart (hcollected history rfl)
    (Exchange.areTexts_of_mem_streams htexts)
  refine ⟨hwindow, history, rows, keys, rfl, hrows, hseries, hsorted, hkeys, fun row hrow => ?_⟩
  obtain ⟨first, hfirst, htokens⟩ := htokens row hrow
  have hgrid := hstreams first (List.mem_of_find?_eq_some hfirst)
  exact ⟨first, hfirst, InputSeries.holds_of_tokens hlimit hstep hgrid hlookback htokens⟩

end Generator

/-- A generator that looks back two minutes, minute by minute. -/
def twoMinutes : Generator where
  catalog := .empty
  lookback := .ofMinutes 2

/-- The labels of a series that has only a name. -/
def namedUp : TextLabels := ⟨[("__name__", "up")], by decide⟩

/-- A backend that answers a range query with a number, or with two series of one key, recorded at
both ends of the first two minutes and at the end only. -/
def upAtEnds : Gateway (List Log.Event) where
  ruleGroups := pure []
  query _ time := pure (.scalar ⟨time, .ofInt 1⟩)
  queryRange expr _ finish _ := pure (
    if expr = "time" then .scalar ⟨finish, .ofInt 1⟩
    else .matrix [⟨.ofTexts namedUp, [⟨⟨0⟩, .ofInt 1⟩, ⟨⟨120000000⟩, .ofInt 2⟩]⟩,
      ⟨.ofTexts namedUp, [⟨⟨120000000⟩, .ofInt 3⟩]⟩])

/-- Its answers bring samples on the grid only. -/
lemma onGrid_of_isAnswerOf_upAtEnds {call : Exchange} (h : call.IsAnswerOf upAtEnds) :
    call.OnGrid ⟨0⟩ ⟨120000000⟩ twoMinutes.step := by
  have htexts : (Labels.ofTexts namedUp).AreTexts := ⟨namedUp, rfl⟩
  cases call with
  | listed answer =>
    obtain ⟨_, rfl⟩ := h
    exact ⟨rfl, by simp [Exchange.streams]⟩
  | asked expr time answer =>
    obtain ⟨_, rfl⟩ := h
    exact ⟨rfl, by simp [Exchange.streams, upAtEnds, Act.pure_apply]⟩
  | askedRange expr start finish step answer =>
    obtain ⟨_, rfl⟩ := h
    refine ⟨rfl, fun stream hstream => ?_⟩
    by_cases hexpr : expr = "time"
    · simp [Exchange.streams, upAtEnds, Act.pure_apply, hexpr] at hstream
    -- both samples are at an end of the window
    · have hstart : (⟨0⟩ : Instant) = Instant.afterSteps ⟨0⟩ twoMinutes.step 0 := by decide
      have hfinish : (⟨120000000⟩ : Instant) = Instant.afterSteps ⟨0⟩ twoMinutes.step 2 := by decide
      simp only [Exchange.streams, upAtEnds, Act.pure_apply, hexpr, if_false, List.mem_cons,
        List.not_mem_nil, or_false] at hstream
      rcases hstream with rfl | rfl
      · refine ⟨htexts, by decide, ?_⟩
        simp only [List.forall_mem_cons]
        exact ⟨⟨by decide, 0, hstart⟩, ⟨by decide, 2, hfinish⟩, by simp⟩
      · refine ⟨htexts, by simp, ?_⟩
        simp only [List.forall_mem_cons]
        exact ⟨⟨by decide, 2, hfinish⟩, by simp⟩

/-- So its rows have a value for each of three minutes. -/
theorem rows_of_upAtEnds :
    ∃ calls result final,
      Act.Runs upAtEnds (twoMinutes.history upAtEnds.recorded ["time", "up", "down"] ⟨120000000⟩)
        (twoMinutes.history upAtEnds ["time", "up", "down"] ⟨120000000⟩) [] calls result final ∧
      (∀ call ∈ calls, call.OnGrid ⟨0⟩ ⟨120000000⟩ twoMinutes.step) ∧
      ∃ history rows, result = .ok history ∧
        twoMinutes.inputRows history ⟨120000000⟩ = .ok rows ∧
        ∀ row ∈ rows, row.tokens.length = 3 := by
  have hstart : (Instant.minus ⟨120000000⟩ twoMinutes.lookback).isRepresentable := by decide
  obtain ⟨calls, result, final, hruns, hspec⟩ :=
    twoMinutes.rows_of_history upAtEnds (by decide) (by decide) (by decide)
      ["time", "up", "down"] hstart []
  have hgrid : ∀ call ∈ calls, call.OnGrid ⟨0⟩ ⟨120000000⟩ twoMinutes.step := fun call hcall =>
    onGrid_of_isAnswerOf_upAtEnds (hruns.answers call hcall)
  obtain ⟨_, history, rows, _, hresult, hrows, _, _, _, hholds⟩ := hspec hgrid
  refine ⟨calls, result, final, hruns, hgrid, history, rows, hresult, hrows, fun row hrow => ?_⟩
  obtain ⟨_, _, hrow⟩ := hholds row hrow
  have hlength := hrow.length
  have hslots : twoMinutes.lookback.micros / twoMinutes.step.micros + 1 = 3 := by decide
  omega

end RuleFixtures
