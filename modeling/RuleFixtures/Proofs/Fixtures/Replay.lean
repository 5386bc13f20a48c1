import RuleFixtures.Proofs.Fixtures.Generation

/-!
When the values of a fixture are replayed.

A test goes through the values of a row at the interval of its fixture; the values were recorded
one step apart.

* `Fixture.replayTime` is the time after the start of a test at which a value is replayed.
* `slotText_of_append`: a sample at a step of the window has the position of the step in its row.
* `Generator.replay_of_rule`: the values of a fixture are replayed as they were recorded exactly if
  its interval is the step.
* `halfMinutes_replayed_late`: with a shorter step they come later than the expression is
  evaluated.
-/

namespace RuleFixtures

/-- The time after the start of a test at which a value of a row is replayed: an interval for each
value before it. -/
def Fixture.replayTime (fixture : Fixture) (position : ℕ) : Duration :=
  ⟨position * fixture.interval.micros⟩

/-- The distance of a step from the start. -/
lemma Instant.since_afterSteps (start : Instant) (step : Duration) (k : ℕ) :
    (start.afterSteps step k).since start = ⟨k * step.micros⟩ := by
  rw [Instant.since, Instant.afterSteps_micros, add_sub_cancel_left]

/-- After the first value, a value is replayed at its distance only if the interval is the step. -/
lemma Fixture.replayTime_eq_iff (fixture : Fixture) (step : Duration) {k : ℕ} (hk : 0 < k) :
    fixture.replayTime k = ⟨k * step.micros⟩ ↔ fixture.interval = step := by
  have hne : (k : ℤ) ≠ 0 := by omega
  obtain ⟨interval, rows, test⟩ := fixture
  obtain ⟨interval⟩ := interval
  obtain ⟨step⟩ := step
  rw [Fixture.replayTime, Duration.mk.injEq, Duration.mk.injEq]
  exact mul_right_inj' hne

/-- The first sample in the slot of its step is written there. -/
lemma slotText_of_append {start : Instant} {step : Duration} (hstep : 0 < step.micros) {k : ℕ}
    (hk : k < 2 ^ 53) {before after : List Sample} {sample : Sample}
    (htime : sample.time = start.afterSteps step k)
    (hbefore : ∀ other ∈ before, other.fallsIn start step k = false) :
    slotText start step (before ++ sample :: after) k = SampleText.write sample.value := by
  have hnone : before.find? (Sample.fallsIn start step k) = none := by
    rw [List.find?_eq_none]
    intro other hother hfalls
    rw [hbefore other hother] at hfalls
    cases hfalls
  have hfalls : sample.fallsIn start step k = true := by
    rw [Sample.fallsIn_afterSteps hstep hk htime, decide_eq_true rfl]
  rw [slotText, List.find?_append, hnone, Option.none_or, List.find?_cons_of_pos hfalls]

namespace Generator

variable {σ : Type} [Log.Journal σ] (g : Generator) (gateway : Gateway σ)

/-- For a window of whole steps, a sample that is recorded some steps after the start of the window
is the value at this position of its row. All values are replayed at the distances at which they
were recorded exactly if the interval is the step, and so is the last one at the time of the
evaluation. -/
theorem replay_of_rule {q : ℕ} (hq : 0 < q) (hlimit : q < 2 ^ 53) (hstep : 0 < g.step.micros)
    (hlookback : g.lookback.micros = q * g.step.micros) (name : Json) (now : Instant) (s : σ) :
    ∃ calls result final,
      Act.Runs gateway (g.rule gateway.recorded name now) (g.rule gateway name now) s calls result
        final ∧
      ((∀ call ∈ calls, call.TextLabelled) → ∀ fixture, result = .ok fixture →
        ∃ streams window alignment,
          calls = .asked (g.ownQuery name) now (.ok (.matrix streams)) :: window ∧
          IsAlignment streams alignment ∧
          (alignment.minus g.lookback).afterSteps g.step q = alignment ∧
          (∀ row ∈ fixture.inputSeries, ∃ first,
            firstWith row.series (window.flatMap Exchange.streams) = some first ∧
            row.tokens.length = q + 1 ∧
            ∀ before sample after k, first.samples = before ++ sample :: after → k ≤ q →
              sample.time = (alignment.minus g.lookback).afterSteps g.step k →
              (∀ other ∈ before,
                other.fallsIn (alignment.minus g.lookback) g.step k = false) →
              row.tokens[k]? = some (SampleText.write sample.value)) ∧
          ((∀ k, k ≤ q → fixture.replayTime k =
            ((alignment.minus g.lookback).afterSteps g.step k).since
              (alignment.minus g.lookback)) ↔ g.interval = g.step) ∧
          (fixture.replayTime q = fixture.test.evalTime ↔ g.interval = g.step)) := by
  obtain ⟨calls, result, final, hruns, hspec⟩ := g.runs_rule gateway name now s
  refine ⟨calls, result, final, hruns, fun htexts fixture hfixture => ?_⟩
  have hrun := hspec htexts
  rw [hfixture] at hrun
  cases hrun with
  | @made metrics own window expected alignment history rows _ hown hstart _ hcollected hrows =>
    rw [List.forall_mem_append] at htexts
    -- the rows of the fixture, with as many slots as there are steps and one more
    obtain ⟨rows', keys, hrows', _, _, _, htokens⟩ := g.exists_inputRows hstep.ne'
      (g.slots_eq_of_mul hlimit hstep hlookback) (by omega) hstart hcollected
      (Exchange.areTexts_of_mem_streams htexts.2)
    rw [hrows] at hrows'
    obtain rfl := Except.ok.inj hrows'
    cases hown with
    | @found streams _ _ halignment =>
      have hlast : g.lookback = ⟨q * g.step.micros⟩ := by rw [← hlookback]
      -- replaying goes by the interval and recording by the step, so one step decides for all of
      -- them
      have hiff := Fixture.replayTime_eq_iff ⟨g.interval, rows, ⟨name, g.lookback, expected⟩⟩
        g.step hq
      refine ⟨streams, window, alignment, rfl, halignment, ?_, ?_, ?_, ?_⟩
      · rw [Instant.afterSteps, ← hlast, Instant.minus, Instant.plus, sub_add_cancel]
      · intro row hrow
        obtain ⟨first, hfirst, htoken⟩ := htokens row hrow
        have hslots : ((q : ℤ) + 1).toNat = q + 1 := by omega
        rw [hslots] at htoken
        refine ⟨first, hfirst, by rw [htoken, List.length_map, List.length_range], ?_⟩
        intro before sample after k hsamples hk htime hbefore
        rw [htoken, List.getElem?_map, List.getElem?_range (by omega), Option.map_some, hsamples,
          slotText_of_append hstep (by omega) htime hbefore]
      · constructor
        · intro hall
          rw [← hiff, hall q le_rfl, Instant.since_afterSteps]
        · intro hinterval k _
          rw [Instant.since_afterSteps, Fixture.replayTime, hinterval]
      · rw [← hiff, ← hlast]

end Generator

/-! ### Steps of a minute and of half a minute -/

/-- At a step of one minute the last value is replayed when the expression is evaluated. -/
theorem replay_of_wholeMinutes :
    ∃ fixture,
      ((tenMinutes (.ofMinutes 1)).rule upForTenMinutes (.text "job:up") ⟨600000000⟩ []).1 =
        .ok fixture ∧
      fixture.replayTime 10 = fixture.test.evalTime := by
  obtain ⟨calls, result, final, hruns, hspec⟩ := (tenMinutes (.ofMinutes 1)).replay_of_rule
    upForTenMinutes (show 0 < 10 from by decide) (by decide) (by decide) (by decide)
    (.text "job:up") ⟨600000000⟩ []
  have hplain := congrArg Prod.fst hruns.plain
  have hresult : result = .ok ⟨.ofMinutes 1, [⟨.text "up", "1 _ _ _ _ _ _ _ _ _ 2"⟩],
      ⟨.text "job:up", .ofMinutes 10, [⟨.text "up", .ofInt 2⟩]⟩⟩ :=
    hplain.symm.trans (by decide +kernel)
  have htexts : ∀ call ∈ calls, call.TextLabelled := fun call hcall =>
    textLabelled_of_isAnswerOf_upForTenMinutes (hruns.answers call hcall)
  obtain ⟨_, _, _, _, _, _, _, _, hlast⟩ := hspec htexts _ hresult
  exact ⟨_, hplain.trans hresult, hlast.2 rfl⟩

/-- At a step of half a minute the value recorded ten minutes after the start is the last of
twenty-one. It is replayed after twenty minutes, while the expression is evaluated after ten. -/
theorem halfMinutes_replayed_late :
    ∃ fixture,
      ((tenMinutes (.ofSeconds 30)).rule upForTenMinutes (.text "job:up") ⟨600000000⟩ []).1 =
        .ok fixture ∧
      fixture.inputSeries.map InputSeries.tokens = [["1"] ++ List.replicate 19 "_" ++ ["2"]] ∧
      (Instant.afterSteps ⟨0⟩ (.ofSeconds 30) 20).since ⟨0⟩ = .ofMinutes 10 ∧
      fixture.replayTime 20 = .ofMinutes 20 ∧ fixture.test.evalTime = .ofMinutes 10 :=
  ⟨⟨.ofMinutes 1, [⟨.text "up", "1 _ _ _ _ _ _ _ _ _ _ _ _ _ _ _ _ _ _ _ 2"⟩],
    ⟨.text "job:up", .ofMinutes 10, [⟨.text "up", .ofInt 2⟩]⟩⟩, by decide +kernel⟩

end RuleFixtures
