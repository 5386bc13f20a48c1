import Mathlib.Tactic

/-!
Lists that are gone through up to the first fault.

* `bind_eq_ok_iff`: two steps in turn have a result if both have.
* `mapM_eq_error_iff`: the first fault among the elements is that of the whole.
* `mapM_eq_error_iff_flatMap`: it is also the first among all parts of the elements.
* `mapM_eq_ok_iff`: a list is gone through if every element is.
* `exists_mapM_perm`: a list in another order is gone through to the same results.
-/

namespace RuleFixtures

/-- Two steps in turn have a result if both have. -/
lemma bind_eq_ok_iff {α β ε : Type} {result : Except ε α} {f : α → Except ε β} {b : β} :
    (result >>= f) = .ok b ↔ ∃ a, result = .ok a ∧ f a = .ok b := by
  cases result <;> simp [bind, Except.bind]

/-- What is made of a result does not change its fault. -/
lemma map_eq_error_iff {α β ε : Type} (result : Except ε α) {f : α → β} {fault : ε} :
    result.map f = .error fault ↔ result = .error fault := by
  cases result <;> simp [Except.map]

/-- A result that is there is a value. -/
lemma toOption_eq_some_iff {α ε : Type} {result : Except ε α} {a : α} :
    result.toOption = some a ↔ result = .ok a := by
  cases result <;> simp [Except.toOption]

lemma map_eq_ok_iff {α β ε : Type} (result : Except ε α) {f : α → β} {b : β} :
    result.map f = .ok b ↔ ∃ a, result = .ok a ∧ f a = b := by
  cases result <;> simp [Except.map]

lemma mapError_eq_ok_iff {α ε δ : Type} {result : Except ε α} {tell : ε → δ} {a : α} :
    result.mapError tell = .ok a ↔ result = .ok a := by
  cases result <;> simp [Except.mapError]

/-- What is made of each result may be made of all results at the end. -/
lemma mapM_map_result {α β γ ε : Type} (f : α → Except ε β) (g : β → γ) (xs : List α) :
    (xs.mapM fun x => (f x).map g) = (xs.mapM f).map (List.map g) := by
  induction xs with
  | nil => rfl
  | cons x rest ih =>
    rw [List.mapM_cons, List.mapM_cons, ih]
    cases f x with
    | error fault => rfl
    | ok b => cases rest.mapM f <;> rfl

/-- A list is gone through up to the first fault. -/
lemma mapM_eq_error_iff {α β ε : Type} {f : α → Except ε β} {xs : List α} {fault : ε} :
    xs.mapM f = .error fault ↔
      ∃ before x after, xs = before ++ x :: after ∧ (∀ y ∈ before, ∃ b, f y = .ok b) ∧
        f x = .error fault := by
  induction xs with
  | nil => simp [pure, Except.pure]
  | cons x rest ih =>
    rw [List.mapM_cons]
    -- the first element is at fault itself, or the first fault is that of the others
    cases hx : f x with
    | error found =>
      constructor
      · intro h
        cases h
        exact ⟨[], x, rest, rfl, by simp, hx⟩
      · rintro ⟨before, y, after, hsplit, hbefore, hy⟩
        cases before with
        | nil =>
          cases hsplit
          cases hx.symm.trans hy
          rfl
        | cons z before =>
          obtain ⟨b, hb⟩ := hbefore z List.mem_cons_self
          cases hsplit
          rw [hx] at hb
          cases hb
    | ok b =>
      have hrest : ((Except.ok b : Except ε β) >>= fun b => rest.mapM f >>= fun bs =>
          pure (b :: bs)) = .error fault ↔ rest.mapM f = .error fault := by
        cases rest.mapM f <;> simp [bind, Except.bind, pure, Except.pure]
      rw [hrest, ih]
      constructor
      · rintro ⟨before, y, after, rfl, hbefore, hy⟩
        exact ⟨x :: before, y, after, rfl, List.forall_mem_cons.2 ⟨⟨b, hx⟩, hbefore⟩, hy⟩
      · rintro ⟨before, y, after, hsplit, hbefore, hy⟩
        cases before with
        | nil =>
          cases hsplit
          rw [hx] at hy
          cases hy
        | cons z before =>
          cases hsplit
          exact ⟨before, y, after, rfl, (List.forall_mem_cons.1 hbefore).2, hy⟩

/-- A list is gone through part by part, up to the first fault. -/
lemma mapM_eq_error_iff_flatMap {α β γ δ ε : Type} {f : α → Except ε β} {g : γ → Except ε δ}
    {parts : α → List γ} {xs : List α}
    (h : ∀ x ∈ xs, ∀ fault, f x = .error fault ↔ (parts x).mapM g = .error fault) (fault : ε) :
    xs.mapM f = .error fault ↔ (xs.flatMap parts).mapM g = .error fault := by
  induction xs with
  | nil => simp [pure, Except.pure]
  | cons x rest ih =>
    rw [List.forall_mem_cons] at h
    have hrest := ih h.2
    rw [List.mapM_cons, List.flatMap_cons, List.mapM_append]
    cases hx : f x with
    | error found =>
      rw [(h.1 found).1 hx]
      simp [bind, Except.bind]
    | ok b =>
      cases hparts : (parts x).mapM g with
      | error found =>
        rw [(h.1 found).2 hparts] at hx
        cases hx
      | ok bs =>
        cases hxs : rest.mapM f <;> cases hflat : (rest.flatMap parts).mapM g <;>
          simp_all [bind, Except.bind, pure, Except.pure]

lemma mapM_singleton_eq_error_iff {α β ε : Type} {f : α → Except ε β} {x : α} {fault : ε} :
    [x].mapM f = .error fault ↔ f x = .error fault := by
  rw [List.mapM_cons]
  cases f x <;> simp [bind, Except.bind, pure, Except.pure]

/-- A list is gone through if every element is. -/
lemma mapM_eq_ok_iff {α β ε : Type} {f : α → Except ε β} {xs : List α} {ys : List β} :
    xs.mapM f = .ok ys ↔ List.Forall₂ (fun x y => f x = .ok y) xs ys := by
  induction xs generalizing ys with
  | nil => simp [pure, Except.pure, eq_comm]
  | cons x rest ih =>
    rw [List.mapM_cons]
    cases hx : f x with
    | error fault => cases ys <;> simp [bind, Except.bind, hx]
    | ok y =>
      cases hrest : rest.mapM f with
      | error fault => cases ys <;> simp [bind, Except.bind, ← ih, hrest]
      | ok others =>
        cases ys <;> simp [bind, Except.bind, pure, Except.pure, ← ih, hrest, hx]

/-- A list is gone through to a function of its elements. -/
lemma mapM_eq_ok_map {α β ε : Type} {f : α → Except ε β} {g : α → β} {xs : List α}
    (h : ∀ x ∈ xs, f x = .ok (g x)) : xs.mapM f = .ok (xs.map g) :=
  mapM_eq_ok_iff.2 (List.forall₂_map_right_iff.2 (List.forall₂_same.2 h))

/-- A list in another order is gone through to the same results in another order. -/
lemma exists_mapM_perm {α β ε : Type} {f : α → Except ε β} {xs ys : List α} {bs : List β}
    (h : xs.Perm ys) (hxs : xs.mapM f = .ok bs) : ∃ cs, ys.mapM f = .ok cs ∧ cs.Perm bs := by
  obtain ⟨cs, hys, hcs⟩ := List.perm_comp_forall₂ h.symm (mapM_eq_ok_iff.1 hxs)
  exact ⟨cs, mapM_eq_ok_iff.2 hys, hcs⟩

/-- A list can be gone through if every element can. -/
lemma exists_mapM_eq_ok {α β ε : Type} {f : α → Except ε β} {xs : List α}
    (h : ∀ x ∈ xs, ∃ y, f x = .ok y) : ∃ ys, xs.mapM f = .ok ys := by
  cases hxs : xs.mapM f with
  | ok ys => exact ⟨ys, rfl⟩
  | error fault =>
    obtain ⟨before, x, after, rfl, _, hx⟩ := mapM_eq_error_iff.1 hxs
    obtain ⟨y, hy⟩ := h x (by simp)
    rw [hx] at hy
    cases hy

/-- In lists that are related element by element every element has its other. -/
lemma exists_of_forall₂ {α β : Type} {R : α → β → Prop} {xs : List α} {ys : List β}
    (h : List.Forall₂ R xs ys) {x : α} (hx : x ∈ xs) : ∃ y ∈ ys, R x y := by
  induction h with
  | nil => cases hx
  | cons hxy _ ih =>
    rcases List.mem_cons.1 hx with rfl | hx
    · exact ⟨_, List.mem_cons_self, hxy⟩
    · obtain ⟨y, hy, hxy⟩ := ih hx
      exact ⟨y, List.mem_cons_of_mem _ hy, hxy⟩

lemma forall₂_congr_left {α β : Type} {R S : α → β → Prop} {xs : List α} {ys : List β}
    (h : ∀ x ∈ xs, ∀ y, R x y ↔ S x y) : List.Forall₂ R xs ys ↔ List.Forall₂ S xs ys := by
  induction xs generalizing ys with
  | nil => simp
  | cons x rest ih =>
    rw [List.forall_mem_cons] at h
    cases ys <;> simp [h.1, ih h.2]

end RuleFixtures
