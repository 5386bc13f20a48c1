import RuleFixtures.Fault
import RuleFixtures.Log.Event

/-!
Steps of a run: they change a state and may end with a fault.

The state is kept also when a step ends with a fault, so what was logged, asked or written before
stays.

* `Act` is the monad of steps over a state.
* `Act.log` records an event in a state that takes up events.
* `Act.bind_apply` and `Act.bind_cases` say what two steps in turn do from a state,
  `Act.fst_bind_of_ok` and `Act.fst_bind_of_error` what they come to.
-/

namespace RuleFixtures

/-- A step over a state that may end with a fault. -/
abbrev Act (σ α : Type) := ExceptT Fault (StateM σ) α

namespace Act

variable {σ α : Type}

/-- Ends with a fault. -/
def fail (fault : Fault) : Act σ α := throw fault

/-- Takes a result over. -/
def ofExcept (result : Except Fault α) : Act σ α := fun s => (result, s)

/-- Records an event. -/
def log [Log.Journal σ] (event : Log.Event) : Act σ Unit :=
  fun s => (.ok (), Log.Journal.record event s)

/-! ### Steps from a state -/

theorem pure_apply (a : α) (s : σ) : (pure a : Act σ α) s = (.ok a, s) := rfl

/-- The second step starts where the first one ends, unless that ends with a fault. -/
theorem bind_apply {β : Type} (m : Act σ α) (f : α → Act σ β) (s : σ) :
    (m >>= f) s = match m s with
      | (.ok a, next) => f a next
      | (.error fault, next) => (.error fault, next) := by
  rcases h : m s with ⟨result, next⟩
  simp only [bind, ExceptT.bind, ExceptT.mk, StateT.bind, h]
  cases result with
  | ok a => rfl
  | error fault => rfl

/-- Two steps in turn end with the fault of the first one, or go on with its value. -/
theorem bind_cases {β : Type} (m : Act σ α) (f : α → Act σ β) (s : σ) :
    (∃ fault, (m s).1 = .error fault ∧ (m >>= f) s = (.error fault, (m s).2)) ∨
      ∃ a, (m s).1 = .ok a ∧ (m >>= f) s = f a (m s).2 := by
  rw [bind_apply]
  rcases m s with ⟨fault | a, next⟩
  · exact .inl ⟨fault, rfl, rfl⟩
  · exact .inr ⟨a, rfl, rfl⟩

/-- After a value comes what the second step makes of it. -/
theorem fst_bind_of_ok {β : Type} {m : Act σ α} {f : α → Act σ β} {s : σ} {a : α}
    (h : (m s).1 = .ok a) : ((m >>= f) s).1 = (f a (m s).2).1 := by
  obtain ⟨fault, hfault, -⟩ | ⟨b, hb, hrun⟩ := bind_cases m f s
  · rw [h] at hfault
    cases hfault
  · rw [h] at hb
    cases hb
    rw [hrun]

/-- After a fault comes nothing. -/
theorem fst_bind_of_error {β : Type} {m : Act σ α} {f : α → Act σ β} {s : σ} {fault : Fault}
    (h : (m s).1 = .error fault) : ((m >>= f) s).1 = .error fault := by
  obtain ⟨other, hother, hrun⟩ | ⟨b, hb, -⟩ := bind_cases m f s
  · rw [h] at hother
    cases hother
    rw [hrun]
  · rw [h] at hb
    cases hb

/-- Two steps in turn come to a value if both do. -/
theorem fst_bind_eq_ok_iff {β : Type} {m : Act σ α} {f : α → Act σ β} {s : σ} {b : β} :
    ((m >>= f) s).1 = .ok b ↔ ∃ a, (m s).1 = .ok a ∧ (f a (m s).2).1 = .ok b := by
  cases h : (m s).1 with
  | ok a => simp [fst_bind_of_ok h]
  | error fault => simp [fst_bind_of_error h]

/-- What is made of a value at the end is made of the result. -/
theorem fst_map {β : Type} (m : Act σ α) (f : α → β) (s : σ) :
    ((m >>= fun a => pure (f a)) s).1 = (m s).1.map f := by
  cases h : (m s).1 with
  | ok a => exact fst_bind_of_ok h
  | error fault => exact fst_bind_of_error h

end Act

end RuleFixtures
