import RuleFixtures.Gateway
import RuleFixtures.Proofs.Labels.Key

/-!
Runs of steps, with the calls of the gateway that they make.

A recorded gateway answers as the gateway it wraps and writes every call down with its answer. A
step over the recorded gateway then shows the calls of the same step over the gateway itself.

* `Exchange` is a call with its answer, `Gateway.recorded` writes them down.
* `Act.Runs` relates a step and a state to the result, the calls in order and the state at the
  end.
* `Act.Runs.query` and `Act.Runs.queryRange` are the runs of single calls; `Act.Runs.bind` and
  `Act.Runs.bind_error` put runs together.
-/

namespace RuleFixtures

/-! ### Calls with their answers -/

/-- A call of a gateway with its answer. -/
inductive Exchange where
  | listed (answer : Except Fault (List RuleGroup))
  | asked (expr : String) (time : Instant) (answer : Except Fault QueryResult)
  | askedRange (expr : String) (start finish : Instant) (step : Duration)
      (answer : Except Fault QueryResult)
  deriving DecidableEq

namespace Exchange

/-- The series that a call brings in; answers that are no matrix bring none. -/
def streams : Exchange → List Stream
  | .asked _ _ (.ok (.matrix streams)) => streams
  | .askedRange _ _ _ _ (.ok (.matrix streams)) => streams
  | _ => []

/-- Are the labels of all series texts? -/
def TextLabelled (call : Exchange) : Prop := ∀ stream ∈ call.streams, stream.labels.AreTexts

/-- Is the answer one that the gateway gives in some state? -/
def IsAnswerOf {σ : Type} (gateway : Gateway σ) : Exchange → Prop
  | .listed answer => ∃ s, answer = (gateway.ruleGroups s).1
  | .asked expr time answer => ∃ s, answer = (gateway.query expr time s).1
  | .askedRange expr start finish step answer =>
    ∃ s, answer = (gateway.queryRange expr start finish step s).1

/-- The series of several calls with texts as labels have texts as labels. -/
lemma areTexts_of_mem_streams {calls : List Exchange} (htexts : ∀ call ∈ calls, call.TextLabelled) :
    ∀ stream ∈ calls.flatMap streams, stream.labels.AreTexts :=
  List.forall_mem_flatMap.2 htexts

end Exchange

/-- A state with the calls that were made so far. -/
structure Recorded (σ : Type) where
  exchanges : List Exchange
  inner : σ

/-- Events go to the state inside. -/
instance {σ : Type} [Log.Journal σ] : Log.Journal (Recorded σ) :=
  ⟨fun event recorded => { recorded with inner := Log.Journal.record event recorded.inner }⟩

/-- Makes a call on the state inside and writes it down with its answer. -/
def Recorded.note {σ α : Type} (call : Act σ α) (exchange : Except Fault α → Exchange) :
    Act (Recorded σ) α := fun recorded =>
  let (answer, inner) := call recorded.inner
  (answer, ⟨recorded.exchanges ++ [exchange answer], inner⟩)

/-- The gateway that writes every call down. -/
def Gateway.recorded {σ : Type} (gateway : Gateway σ) : Gateway (Recorded σ) where
  ruleGroups := Recorded.note gateway.ruleGroups .listed
  query expr time := Recorded.note (gateway.query expr time) (.asked expr time)
  queryRange expr start finish step :=
    Recorded.note (gateway.queryRange expr start finish step) (.askedRange expr start finish step)

/-! ### Runs -/

namespace Act

variable {σ α β : Type} {gateway : Gateway σ}

/-- A step runs from a state to a result and a final state, and makes the calls on its way. The
recorded step writes down just these calls, and each of them has an answer of the gateway. -/
structure Runs (gateway : Gateway σ) (recorded : Act (Recorded σ) α) (plain : Act σ α) (s : σ)
    (calls : List Exchange) (result : Except Fault α) (final : σ) : Prop where
  plain : plain s = (result, final)
  recorded : ∀ before, recorded ⟨before, s⟩ = (result, ⟨before ++ calls, final⟩)
  answers : ∀ call ∈ calls, call.IsAnswerOf gateway

namespace Runs

variable {recorded : Act (Recorded σ) α} {plain : Act σ α} {s middle final : σ}
  {calls first second : List Exchange} {fault : Fault}

/-- A result that is there already needs no call. -/
protected lemma pure (a : α) (s : σ) : Runs gateway (pure a) (pure a) s [] (.ok a) s where
  plain := rfl
  recorded before := by rw [List.append_nil, pure_apply]
  answers := by simp

/-- Neither does one that is taken over. -/
protected lemma ofExcept {value result : Except Fault α} (h : value = result) (s : σ) :
    Runs gateway (ofExcept value) (ofExcept value) s [] result s where
  plain := by rw [ofExcept, h]
  recorded before := by rw [List.append_nil, ofExcept, h]
  answers := by simp

/-- Nor does a fault. -/
protected lemma fail (fault : Fault) (s : σ) :
    Runs gateway (fail fault : Act _ α) (fail fault) s [] (.error fault) s where
  plain := rfl
  recorded before := by rw [List.append_nil]; rfl
  answers := by simp

/-- Recording an event needs no call. -/
protected lemma log [Log.Journal σ] (event : Log.Event) (s : σ) :
    Runs gateway (log event) (log event) s [] (.ok ()) (Log.Journal.record event s) where
  plain := rfl
  recorded before := by rw [List.append_nil]; rfl
  answers := by simp

/-- A query is one call. -/
lemma query (expr : String) (time : Instant) (s : σ) :
    Runs gateway (gateway.recorded.query expr time) (gateway.query expr time) s
      [.asked expr time (gateway.query expr time s).1] (gateway.query expr time s).1
      (gateway.query expr time s).2 where
  plain := rfl
  recorded _ := rfl
  answers call hcall := by
    rw [List.mem_singleton.1 hcall]
    exact ⟨s, rfl⟩

/-- So is a range query. -/
lemma queryRange (expr : String) (start finish : Instant) (step : Duration) (s : σ) :
    Runs gateway (gateway.recorded.queryRange expr start finish step)
      (gateway.queryRange expr start finish step) s
      [.askedRange expr start finish step (gateway.queryRange expr start finish step s).1]
      (gateway.queryRange expr start finish step s).1
      (gateway.queryRange expr start finish step s).2 where
  plain := rfl
  recorded _ := rfl
  answers call hcall := by
    rw [List.mem_singleton.1 hcall]
    exact ⟨s, rfl⟩

variable {next : α → Act (Recorded σ) β} {plainNext : α → Act σ β} {a : α}
  {result : Except Fault β}

/-- The calls of two steps follow each other. -/
lemma bind (hfirst : Runs gateway recorded plain s first (.ok a) middle)
    (hsecond : Runs gateway (next a) (plainNext a) middle second result final) :
    Runs gateway (recorded >>= next) (plain >>= plainNext) s (first ++ second) result final where
  plain := by rw [bind_apply, hfirst.plain, ← hsecond.plain]
  recorded before := by rw [bind_apply, hfirst.recorded, ← List.append_assoc, ← hsecond.recorded]
  answers call hcall := by
    rcases List.mem_append.1 hcall with hcall | hcall
    · exact hfirst.answers call hcall
    · exact hsecond.answers call hcall

/-- A step that ends with a fault is the last one. -/
lemma bind_error (hfirst : Runs gateway recorded plain s calls (.error fault) final) :
    Runs gateway (recorded >>= next) (plain >>= plainNext) s calls (.error fault) final where
  plain := by rw [bind_apply, hfirst.plain]
  recorded before := by rw [bind_apply, hfirst.recorded]
  answers := hfirst.answers

/-- A first step without calls leaves those of the second. -/
lemma bind_silent (hfirst : Runs gateway recorded plain s [] (.ok a) middle)
    (hsecond : Runs gateway (next a) (plainNext a) middle calls result final) :
    Runs gateway (recorded >>= next) (plain >>= plainNext) s calls result final :=
  hfirst.bind hsecond

/-- And the other way round. -/
lemma bind_last (hfirst : Runs gateway recorded plain s calls (.ok a) middle)
    (hsecond : Runs gateway (next a) (plainNext a) middle [] result final) :
    Runs gateway (recorded >>= next) (plain >>= plainNext) s calls result final := by
  have hboth := hfirst.bind hsecond
  rwa [List.append_nil] at hboth

/-- What is made of a result needs no call. -/
protected lemma map {value : Except Fault α} (f : α → β)
    (h : Runs gateway recorded plain s calls value final) :
    Runs gateway (do return f (← recorded)) (do return f (← plain)) s calls (value.map f)
      final := by
  cases value with
  | error fault => exact h.bind_error
  | ok a => exact h.bind_last (.pure (f a) final)

end Runs

end Act

end RuleFixtures
