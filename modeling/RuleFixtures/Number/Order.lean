import RuleFixtures.Number.Binary64

/-!
The order of the doubles through whole numbers.

* `Binary64.rank` is the number of units of a finite number, and lies beyond all of them for the
  infinities.
* `lt_iff_rank_lt`, `le_iff_rank_le` and `numEq_iff_rank_eq` say that numbers compare as their ranks
  do.
-/

namespace RuleFixtures.Binary64

/-- The largest scale in use. -/
def maxScale : Nat := 2045

/-- A number of units beyond those of all finite numbers. -/
def unitLimit : Nat := Nat.pow 2 53 * Nat.pow 2 maxScale

theorem powTwo_le {m n : Nat} (h : m ≤ n) : Nat.pow 2 m ≤ Nat.pow 2 n :=
  Nat.pow_le_pow_right (by decide) h

theorem powTwo_pos (n : Nat) : 0 < Nat.pow 2 n := Nat.pow_pos (by decide)

theorem units_lt_unitLimit {mantissa scale : Nat} (h : Canonical mantissa scale) :
    mantissa * Nat.pow 2 scale < unitLimit := by
  have hscale : Nat.pow 2 scale ≤ Nat.pow 2 maxScale := powTwo_le h.2.1
  rw [unitLimit]
  exact Nat.mul_lt_mul_of_lt_of_le h.1 hscale (powTwo_pos _)

/-- The place of a number in the order; what is not a number has a place that says nothing. -/
def rank : Binary64 → Int
  | .nan => 0
  | .infinite negative => signed negative unitLimit
  | .finite negative mantissa scale _ => signed negative (mantissa * Nat.pow 2 scale)

theorem lt_iff_rank_lt {x y : Binary64} (hx : x.isNaN = false) (hy : y.isNaN = false) :
    x.lt y = true ↔ x.rank < y.rank := by
  cases x with
  | nan => simp [isNaN] at hx
  | infinite s =>
    cases y with
    | nan => simp [isNaN] at hy
    | infinite t =>
      have pos : 0 < unitLimit := Nat.zero_lt_of_lt (units_lt_unitLimit (by decide : Canonical 0 0))
      -- what is infinite has the rank of the limit, which no finite double reaches
      simp only [lt, rank]
      generalize unitLimit = limit at pos
      cases s <;> cases t <;> simp [signed]
      omega
    | finite t n f k =>
      have bound := units_lt_unitLimit k
      simp only [lt, rank]
      generalize unitLimit = limit at bound
      generalize n * Nat.pow 2 f = units at bound
      cases s <;> cases t <;> simp [signed] <;> omega
  | finite s m e k =>
    cases y with
    | nan => simp [isNaN] at hy
    | infinite t =>
      have bound := units_lt_unitLimit k
      simp only [lt, rank]
      generalize unitLimit = limit at bound
      generalize m * Nat.pow 2 e = units at bound
      cases s <;> cases t <;> simp [signed] <;> omega
    | finite t n f l =>
      simp [lt, rank, signed, signedUnits?, units?]

theorem le_iff_rank_le {x y : Binary64} (hx : x.isNaN = false) (hy : y.isNaN = false) :
    x.le y = true ↔ x.rank ≤ y.rank := by
  have h := lt_iff_rank_lt hy hx
  simp only [le, hx, hy, Bool.not_false, Bool.true_and, Bool.not_eq_true']
  rw [← Bool.not_eq_true, h]
  omega

theorem numEq_iff_rank_eq {x y : Binary64} (hx : x.isNaN = false) (hy : y.isNaN = false) :
    x.numEq y = true ↔ x.rank = y.rank := by
  rw [numEq, Bool.and_eq_true, le_iff_rank_le hx hy, le_iff_rank_le hy hx, Int.le_antisymm_iff]

theorem rank_lt_of_lt {x y : Binary64} (h : x.lt y = true) : x.rank < y.rank := by
  cases hx : x.isNaN with
  | true => cases x <;> simp [isNaN] at hx; simp [lt] at h
  | false =>
    cases hy : y.isNaN with
    | true => cases y <;> simp [isNaN] at hy; cases x <;> simp [lt] at h
    | false => exact (lt_iff_rank_lt hx hy).1 h

theorem rank_le_of_le {x y : Binary64} (h : x.le y = true) : x.rank ≤ y.rank := by
  have hx : x.isNaN = false := by cases hn : x.isNaN <;> simp_all [le]
  have hy : y.isNaN = false := by cases hn : y.isNaN <;> simp_all [le]
  exact (le_iff_rank_le hx hy).1 h

end RuleFixtures.Binary64
