import RuleFixtures.Proofs.Fixtures.Metrics
import RuleFixtures.Proofs.Fixtures.Window
import RuleFixtures.Proofs.PromQL.RangeSelector

/-!
The lookback of a generator, in its queries and in its windows.

The recorded values of a rule are asked for with the lookback as a text, the metrics over a window
with its instants. Both are of the same length if the lookback is a whole number of milliseconds.

* `Act.RunsWithin` says of a step that all its calls have a property.
* `Generator.runsWithin_rule`: the calls for a rule are its own query and queries over windows as
  long as the lookback.
* `DurationText.write_faithful`: the text of a duration stands for it, no other duration has this
  text, and as a lookback it is the length of the range and of the windows.
-/

namespace RuleFixtures

/-! ### The calls of steps -/

/-- From every state the step runs with calls of one kind. -/
def Act.RunsWithin {σ α : Type} (gateway : Gateway σ) (P : Exchange → Prop)
    (recorded : Act (Recorded σ) α) (plain : Act σ α) : Prop :=
  ∀ s, ∃ calls result final,
    Act.Runs gateway recorded plain s calls result final ∧ ∀ call ∈ calls, P call

namespace Act.RunsWithin

variable {σ α β : Type} {gateway : Gateway σ} {P : Exchange → Prop}
  {recorded : Act (Recorded σ) α} {plain : Act σ α}

/-- A step without calls. -/
lemma silent (h : ∀ s, ∃ result final, Act.Runs gateway recorded plain s [] result final) :
    RunsWithin gateway P recorded plain := by
  intro s
  obtain ⟨result, final, hruns⟩ := h s
  exact ⟨[], result, final, hruns, by simp⟩

protected lemma pure (a : α) : RunsWithin gateway P (pure a) (pure a) :=
  silent fun s => ⟨_, _, .pure a s⟩

protected lemma ofExcept (value : Except Fault α) :
    RunsWithin gateway P (ofExcept value) (ofExcept value) :=
  silent fun s => ⟨_, _, .ofExcept rfl s⟩

protected lemma fail (fault : Fault) :
    RunsWithin gateway P (Act.fail fault : Act _ α) (Act.fail fault) :=
  silent fun s => ⟨_, _, .fail fault s⟩

protected lemma log [Log.Journal σ] (event : Log.Event) :
    RunsWithin gateway P (Act.log event) (Act.log event) :=
  silent fun s => ⟨_, _, .log event s⟩

lemma query {expr : String} {time : Instant} (h : ∀ answer, P (.asked expr time answer)) :
    RunsWithin gateway P (gateway.recorded.query expr time) (gateway.query expr time) := fun s =>
  ⟨_, _, _, .query expr time s, List.forall_mem_singleton.2 (h _)⟩

lemma queryRange {expr : String} {start finish : Instant} {step : Duration}
    (h : ∀ answer, P (.askedRange expr start finish step answer)) :
    RunsWithin gateway P (gateway.recorded.queryRange expr start finish step)
      (gateway.queryRange expr start finish step) := fun s =>
  ⟨_, _, _, .queryRange expr start finish step s, List.forall_mem_singleton.2 (h _)⟩

lemma bind {next : α → Act (Recorded σ) β} {plainNext : α → Act σ β}
    (hfirst : RunsWithin gateway P recorded plain)
    (hsecond : ∀ a, RunsWithin gateway P (next a) (plainNext a)) :
    RunsWithin gateway P (recorded >>= next) (plain >>= plainNext) := by
  intro s
  obtain ⟨first, result, middle, hruns, hcalls⟩ := hfirst s
  cases result with
  | error fault => exact ⟨_, _, _, hruns.bind_error, hcalls⟩
  | ok a =>
    obtain ⟨second, result, final, hrest, hothers⟩ := hsecond a middle
    exact ⟨_, _, _, hruns.bind hrest, List.forall_mem_append.2 ⟨hcalls, hothers⟩⟩

end Act.RunsWithin

/-- The call is the query at the instant, or asks for a window of the given length. -/
def Exchange.IsOver (query : String) (now : Instant) (length : Duration) : Exchange → Prop
  | .listed _ => False
  | .asked expr time _ => expr = query ∧ time = now
  | .askedRange _ start finish _ _ => finish.since start = length

namespace Generator

section Calls

variable {σ : Type} (g : Generator) (gateway : Gateway σ) (name : Json) (now : Instant)

lemma runsWithin_ownValue :
    Act.RunsWithin gateway (Exchange.IsOver (g.ownQuery name) now g.lookback)
      (g.ownValue gateway.recorded name now) (g.ownValue gateway name now) := by
  refine .bind (.query fun answer => ⟨rfl, rfl⟩) fun result => .bind (.ofExcept _) fun streams => ?_
  cases withLast streams with
  | nil => exact .fail _
  | cons first rest => exact .bind (.ofExcept _) fun expected => .pure _

variable [Log.Journal σ]

lemma runsWithin_collectHistory {start alignment : Instant}
    (hlength : alignment.since start = g.lookback) (queries : List String)
    (history : Accumulator) :
    Act.RunsWithin gateway (Exchange.IsOver (g.ownQuery name) now g.lookback)
      (g.collectHistory gateway.recorded start alignment history queries)
      (g.collectHistory gateway start alignment history queries) := by
  induction queries generalizing history with
  | nil => exact .pure history
  | cons query rest ih =>
    refine .bind (.queryRange fun answer => hlength) fun result => ?_
    cases result with
    | matrix streams =>
      exact .bind (.ofExcept _) fun collected => .bind (.log _) fun _ => ih collected.2
    | _ => exact .bind (.log _) fun _ => ih history

lemma runsWithin_history (queries : List String) (alignment : Instant) :
    Act.RunsWithin gateway (Exchange.IsOver (g.ownQuery name) now g.lookback)
      (g.history gateway.recorded queries alignment) (g.history gateway queries alignment) := by
  intro s
  by_cases hstart : (alignment.minus g.lookback).isRepresentable
  · have hlength : alignment.since (alignment.minus g.lookback) = g.lookback := by
      simp [Instant.since, Instant.minus]
    obtain ⟨calls, result, final, hruns, hcalls⟩ :=
      g.runsWithin_collectHistory gateway name now hlength queries .empty s
    exact ⟨_, _, _, .bind_silent (.ofExcept (windowStart_eq hstart) s) hruns, hcalls⟩
  · exact ⟨_, _, _, g.runs_history_error gateway queries hstart s, by simp⟩

/-- The calls for a rule are its own query and queries over windows as long as the lookback. -/
theorem runsWithin_rule :
    Act.RunsWithin gateway (Exchange.IsOver (g.ownQuery name) now g.lookback)
      (g.rule gateway.recorded name now) (g.rule gateway name now) := by
  have hqueries : Act.RunsWithin gateway (Exchange.IsOver (g.ownQuery name) now g.lookback)
      (g.dependencyQueries name) (g.dependencyQueries name) := .silent fun s =>
    ⟨_, g.runs_dependencyQueries gateway name s⟩
  refine .bind hqueries fun queries => .bind (g.runsWithin_ownValue gateway name now) fun own => ?_
  refine .bind (g.runsWithin_history gateway name now queries own.2) fun history => ?_
  exact .bind (.log _) fun _ => .bind (.ofExcept _) fun rows => .pure _

end Calls

/-- The range in the rule's own query and the windows of the metrics have the same length. -/
structure Spans (g : Generator) (ms : ℕ) : Prop where
  /-- The query is read as the samples of the rule over so many milliseconds. -/
  range : ∀ name, PromQL.IsPlainName name →
    PromQL.Expr.parse? (g.ownQuery (.text name)) = some (.range ⟨some name, [], [], none, none⟩ ms)
  /-- The other calls for the rule are for windows of so many milliseconds. -/
  windows : ∀ {σ : Type} [Log.Journal σ] (gateway : Gateway σ) (name : Json) (now : Instant),
    Act.RunsWithin gateway (Exchange.IsOver (g.ownQuery name) now ⟨1000 * ms⟩)
      (g.rule gateway.recorded name now) (g.rule gateway name now)

end Generator

/-- The text of a duration of whole milliseconds stands for these, and no other duration has this
text. As a lookback it is the length of the range and of the windows. The limit is more than 35000
years. -/
theorem DurationText.write_faithful {d : Duration} {ms : ℕ} (hd : d.micros = 1000 * ms)
    (hlimit : ms ≤ 2 ^ 50) :
    Writes (write d) ms ∧
    (∀ (e : Duration) (n : ℕ), e.micros = 1000 * n → n ≤ 2 ^ 50 → write e = write d → e = d) ∧
    ∀ g : Generator, g.lookback = d → 0 < ms → g.Spans ms := by
  have hwrites := writes_of_milliseconds hd hlimit
  refine ⟨hwrites, ?_, ?_⟩
  · intro e n he hn htext
    have hread := (writes_of_milliseconds he hn).read
    rw [htext, hwrites.read] at hread
    obtain rfl := Option.some.inj hread
    cases d
    cases e
    exact congrArg Duration.mk (he.trans hd.symm)
  · rintro g rfl hpos
    constructor
    · intro name hname
      exact PromQL.Expr.parse?_range hname hwrites hpos
    · intro σ _ gateway name now
      have hlength : g.lookback = ⟨1000 * ms⟩ := congrArg Duration.mk hd
      rw [← hlength]
      exact g.runsWithin_rule gateway name now

/-- A generator that looks back over 400 days, an hour and a millisecond. -/
def fourHundredDays : Generator where
  catalog := .empty
  lookback := ⟨34563600001000⟩

/-- The text counts a year, five weeks, an hour and a millisecond, and the range of a query with
this text has the length of the windows. -/
theorem DurationText.write_faithful_fourHundredDays :
    fourHundredDays.ownQuery (.text "job:up:sum") = "job:up:sum[1y5w1h1ms]" ∧
      PromQL.Expr.parse? "job:up:sum[1y5w1h1ms]" =
        some (.range ⟨some "job:up:sum", [], [], none, none⟩ 34563600001) ∧
      fourHundredDays.Spans 34563600001 := by
  have hmicros : fourHundredDays.lookback.micros = 1000 * (34563600001 : ℕ) := by decide
  obtain ⟨-, -, hspans⟩ := write_faithful hmicros (by norm_num)
  have hspan := hspans fourHundredDays rfl (by norm_num)
  have hquery : fourHundredDays.ownQuery (.text "job:up:sum") = "job:up:sum[1y5w1h1ms]" := by
    decide +kernel
  have hfirst : ∀ c ∈ "job:up:sum".toList.head?, c.isDigit = false := by
    intro c hc
    obtain rfl : 'j' = c := by simpa using hc
    decide
  have hname : PromQL.IsPlainName "job:up:sum" :=
    ⟨⟨by decide, List.all_eq_true.1 (by decide)⟩, hfirst, by decide +kernel⟩
  exact ⟨hquery, hquery ▸ hspan.range _ hname, hspan⟩

end RuleFixtures
