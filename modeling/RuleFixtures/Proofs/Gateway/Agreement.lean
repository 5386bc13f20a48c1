import RuleFixtures.Proofs.Gateway.Exchange
import RuleFixtures.Proofs.Traversal

/-!
Two runs side by side.

Two steps agree if from states that are related they come to results that are related, and leave
states that are related again.

* `ResultsAgree` relates two results, `OutcomesAgree` results with states, `Act.Agree` two steps.
* `OutcomesAgree.bind` and `Act.Agree.bind`: steps in turn agree if each of them does.
* `Gateway.Agree` relates two gateways by their answers; `Gateway.Agree.recorded` says that they
  still agree when their calls are written down, so that the calls can be compared, too.
-/

namespace RuleFixtures

/-! ### Results -/

/-- Both results are values that are related, or both are faults that are. -/
inductive ResultsAgree {α β : Type} (E : Fault → Fault → Prop) (Q : α → β → Prop) :
    Except Fault α → Except Fault β → Prop where
  | values {a : α} {b : β} (h : Q a b) : ResultsAgree E Q (.ok a) (.ok b)
  | faults {fault other : Fault} (h : E fault other) :
    ResultsAgree E Q (.error fault) (.error other)

namespace ResultsAgree

variable {α β : Type} {E : Fault → Fault → Prop}

/-- A result agrees with itself. -/
protected lemma refl (hE : ∀ fault, E fault fault) (result : Except Fault α) :
    ResultsAgree E Eq result result := by
  cases result with
  | ok a => exact .values rfl
  | error fault => exact .faults (hE fault)

/-- Results that agree in every respect are the same. -/
lemma eq {first second : Except Fault α} (h : ResultsAgree Eq Eq first second) :
    first = second := by
  cases h with
  | values h => rw [h]
  | faults h => rw [h]

/-- What is made of results that agree. -/
lemma map {γ δ : Type} {Q : α → β → Prop} {P : γ → δ → Prop} {f : α → γ} {k : β → δ}
    {first : Except Fault α} {second : Except Fault β} (h : ResultsAgree E Q first second)
    (hf : ∀ a b, Q a b → P (f a) (k b)) : ResultsAgree E P (first.map f) (second.map k) := by
  cases h with
  | values h => exact .values (hf _ _ h)
  | faults h => exact .faults h

/-- What holds of the first value may be added. -/
lemma and_left {Q : α → β → Prop} {S : α → Prop} {first : Except Fault α}
    {second : Except Fault β} (h : ResultsAgree E Q first second)
    (hS : ∀ a, first = .ok a → S a) : ResultsAgree E (fun a b => Q a b ∧ S a) first second := by
  cases h with
  | values h => exact .values ⟨h, hS _ rfl⟩
  | faults h => exact .faults h

/-- A list in another order is gone through to the same results in another order, unless there is a
fault. -/
lemma mapM_perm {f : α → Except Fault β} {xs ys : List α} (h : xs.Perm ys) :
    ResultsAgree (fun _ _ => True) List.Perm (xs.mapM f) (ys.mapM f) := by
  cases hxs : xs.mapM f with
  | ok bs =>
    obtain ⟨cs, hys, hcs⟩ := exists_mapM_perm h hxs
    rw [hys]
    exact .values hcs.symm
  | error fault =>
    cases hys : ys.mapM f with
    | ok cs =>
      obtain ⟨bs, hok, _⟩ := exists_mapM_perm h.symm hys
      rw [hxs] at hok
      cases hok
    | error other => exact .faults trivial

end ResultsAgree

/-! ### Steps -/

/-- Two steps agree if related states lead to results that agree and to related states. -/
def Act.Agree {σ τ α β : Type} (R : σ → τ → Prop) (E : Fault → Fault → Prop) (Q : α → β → Prop)
    (m : Act σ α) (n : Act τ β) : Prop :=
  ∀ s t, R s t → ResultsAgree E Q (m s).1 (n t).1 ∧ R (m s).2 (n t).2

/-- Two outcomes agree if their results do and their states are related. -/
def OutcomesAgree {σ τ α β : Type} (R : σ → τ → Prop) (E : Fault → Fault → Prop)
    (Q : α → β → Prop) (first : Except Fault α × σ) (second : Except Fault β × τ) : Prop :=
  ResultsAgree E Q first.1 second.1 ∧ R first.2 second.2

/-- Steps in turn have outcomes that agree if the first ones do, and the second ones after the
values of the first. -/
lemma OutcomesAgree.bind {σ τ α β γ δ : Type} {R : σ → τ → Prop} {E : Fault → Fault → Prop}
    {Q : α → β → Prop} {P : γ → δ → Prop} {m : Act σ α} {n : Act τ β} {f : α → Act σ γ}
    {k : β → Act τ δ} {s : σ} {t : τ} (hfirst : OutcomesAgree R E Q (m s) (n t))
    (hsecond : ∀ a b, (m s).1 = .ok a → Q a b →
      OutcomesAgree R E P (f a (m s).2) (k b (n t).2)) :
    OutcomesAgree R E P ((m >>= f) s) ((n >>= k) t) := by
  obtain ⟨hresults, hstates⟩ := hfirst
  rw [Act.bind_apply, Act.bind_apply]
  rcases hm : m s with ⟨first, s'⟩
  rcases hn : n t with ⟨second, t'⟩
  rw [hm, hn] at hresults hstates hsecond
  cases hresults with
  | values h => exact hsecond _ _ rfl h
  | faults h => exact ⟨.faults h, hstates⟩

namespace Act.Agree

variable {σ τ α β γ δ : Type} {R : σ → τ → Prop} {E : Fault → Fault → Prop} {Q : α → β → Prop}
  {P : γ → δ → Prop}

protected lemma pure {a : α} {b : β} (h : Q a b) : Agree R E Q (pure a) (pure b) :=
  fun _ _ hstates => ⟨.values h, hstates⟩

protected lemma fail {fault other : Fault} (h : E fault other) :
    Agree R E Q (Act.fail fault) (Act.fail other) :=
  fun _ _ hstates => ⟨.faults h, hstates⟩

protected lemma ofExcept {first : Except Fault α} {second : Except Fault β}
    (h : ResultsAgree E Q first second) : Agree R E Q (Act.ofExcept first) (Act.ofExcept second) :=
  fun _ _ hstates => ⟨h, hstates⟩

protected lemma log [Log.Journal σ] [Log.Journal τ] {event other : Log.Event}
    (h : ∀ s t, R s t → R (Log.Journal.record event s) (Log.Journal.record other t)) :
    Agree R E Eq (Act.log event) (Act.log other) :=
  fun s t hstates => ⟨.values rfl, h s t hstates⟩

/-- Steps in turn agree if the first ones do, and the second ones after all values that agree. -/
lemma bind {m : Act σ α} {n : Act τ β} {f : α → Act σ γ} {k : β → Act τ δ}
    (hfirst : Agree R E Q m n) (hsecond : ∀ a b, Q a b → Agree R E P (f a) (k b)) :
    Agree R E P (m >>= f) (n >>= k) := fun s t hstates =>
  OutcomesAgree.bind (hfirst s t hstates) fun a b _ h =>
    hsecond a b h _ _ (hfirst s t hstates).2

/-- What is made of the results of steps that agree. -/
lemma map {m : Act σ α} {n : Act τ β} {f : α → γ} {k : β → δ} (h : Agree R E Q m n)
    (hf : ∀ a b, Q a b → P (f a) (k b)) :
    Agree R E P (do return f (← m)) (do return k (← n)) :=
  h.bind fun a b hab => .pure (hf a b hab)

end Act.Agree

/-! ### Gateways -/

variable {σ τ : Type}

/-- Two gateways agree if they answer every query alike in related states, and stay in related
states through their answers and through what is logged. -/
structure Gateway.Agree [Log.Journal σ] [Log.Journal τ] (R : σ → τ → Prop)
    (E : Fault → Fault → Prop) (A : QueryResult → QueryResult → Prop) (first : Gateway σ)
    (second : Gateway τ) : Prop where
  query : ∀ expr time, Act.Agree R E A (first.query expr time) (second.query expr time)
  queryRange : ∀ expr start finish step,
    Act.Agree R E A (first.queryRange expr start finish step)
      (second.queryRange expr start finish step)
  record : ∀ event s t, R s t → R (Log.Journal.record event s) (Log.Journal.record event t)

/-- The same query has answers that agree. -/
inductive Exchange.Agree (E : Fault → Fault → Prop) (A : QueryResult → QueryResult → Prop) :
    Exchange → Exchange → Prop where
  | asked (expr : String) (time : Instant) {first second : Except Fault QueryResult}
    (h : ResultsAgree E A first second) :
    Agree E A (.asked expr time first) (.asked expr time second)
  | askedRange (expr : String) (start finish : Instant) (step : Duration)
    {first second : Except Fault QueryResult} (h : ResultsAgree E A first second) :
    Agree E A (.askedRange expr start finish step first) (.askedRange expr start finish step second)

/-- The queries that were made are the same and have answers that agree. -/
def Recorded.Agree (R : σ → τ → Prop) (E : Fault → Fault → Prop)
    (A : QueryResult → QueryResult → Prop) (first : Recorded σ) (second : Recorded τ) : Prop :=
  List.Forall₂ (Exchange.Agree E A) first.exchanges second.exchanges ∧ R first.inner second.inner

section Recorded

variable {R : σ → τ → Prop} {E : Fault → Fault → Prop} {A : QueryResult → QueryResult → Prop}

/-- Calls that agree are written down as calls that agree. -/
lemma Recorded.agree_note {m : Act σ QueryResult} {n : Act τ QueryResult}
    {exchange : Except Fault QueryResult → Exchange} (h : Act.Agree R E A m n)
    (hexchange : ∀ first second, ResultsAgree E A first second →
      Exchange.Agree E A (exchange first) (exchange second)) :
    Act.Agree (Recorded.Agree R E A) E A (Recorded.note m exchange) (Recorded.note n exchange) := by
  intro s t hstates
  obtain ⟨hresults, hinner⟩ := h s.inner t.inner hstates.2
  refine ⟨hresults, List.rel_append hstates.1 ?_, hinner⟩
  exact .cons (hexchange _ _ hresults) .nil

/-- Gateways that agree still do so when their calls are written down. -/
lemma Gateway.Agree.recorded [Log.Journal σ] [Log.Journal τ] {first : Gateway σ}
    {second : Gateway τ} (h : first.Agree R E A second) :
    first.recorded.Agree (Recorded.Agree R E A) E A second.recorded where
  query expr time := Recorded.agree_note (h.query expr time) fun _ _ => .asked expr time
  queryRange expr start finish step :=
    Recorded.agree_note (h.queryRange expr start finish step) fun _ _ =>
      .askedRange expr start finish step
  record event _ _ hstates := ⟨hstates.1, h.record event _ _ hstates.2⟩

end Recorded

end RuleFixtures
