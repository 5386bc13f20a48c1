import RuleFixtures.Number.Rounding

/-!
Double precision numbers, kept exactly.

A finite number is a sign, a mantissa and a scale: its magnitude is `mantissa * 2 ^ scale`
units, one unit being `2 ^ (-1074)`. Every operation works on the exact rational value and
rounds once, to nearest with ties to even, in `ofRatio`.

* `Binary64.Canonical` says which pairs of mantissa and scale are used, so that equal
  numbers of equal sign are equal terms.
* `Binary64.ofRatio` rounds a quotient of naturals; `add`, `sub`, `mul`, `div`,
  `floorDiv` are the exact operation followed by it.
* `Binary64.truncate` and `Binary64.roundToInt` leave the doubles for the integers.
-/

namespace RuleFixtures

/-- The mantissas and scales in use: below `2 ^ 53`, and at least `2 ^ 52` unless the scale is
the least one. -/
def Canonical (mantissa scale : Nat) : Prop :=
  mantissa < Nat.pow 2 53 ∧ scale ≤ 2045 ∧ (scale = 0 ∨ Nat.pow 2 52 ≤ mantissa)

instance (mantissa scale : Nat) : Decidable (Canonical mantissa scale) := by
  unfold Canonical; infer_instance

/-- A double precision number. -/
inductive Binary64 where
  /-- Not a number. -/
  | nan
  /-- Infinity with its sign. -/
  | infinite (negative : Bool)
  /-- The number of magnitude `mantissa * 2 ^ scale * 2 ^ (-1074)`; zero has a sign too. -/
  | finite (negative : Bool) (mantissa scale : Nat) (canonical : Canonical mantissa scale)
  deriving DecidableEq

namespace Binary64

/-- The number of units in one. -/
def unitsOfOne : Nat := Nat.pow 2 1074

/-- Zero, with a sign. -/
def zero (negative : Bool) : Binary64 := .finite negative 0 0 (by decide)

instance : Inhabited Binary64 := ⟨zero false⟩

/-- The sign and the magnitude in units of a finite number. -/
def units? : Binary64 → Option (Bool × Nat)
  | .finite negative mantissa scale _ => some (negative, mantissa * Nat.pow 2 scale)
  | _ => none

/-- A natural with a sign. -/
def signed (negative : Bool) (n : Nat) : Int := if negative then -(n : Int) else (n : Int)

/-- The signed number of units of a finite number. -/
def signedUnits? (x : Binary64) : Option Int :=
  x.units?.map fun (negative, units) => signed negative units

/-- Packs a mantissa that may have grown to `2 ^ 53` by rounding; too large a scale is infinity. -/
def pack (negative : Bool) (mantissa scale : Nat) : Binary64 :=
  let (m, s) :=
    if mantissa = Nat.pow 2 53 then (Nat.pow 2 52, scale + 1) else (mantissa, scale)
  if h : Canonical m s then .finite negative m s h else .infinite negative

/-- The double nearest to `num / den`, ties to even, with the given sign. -/
def ofRatio (negative : Bool) (num den : Nat) : Binary64 :=
  let scaled := num * unitsOfOne
  let scale := Nat.log2 (scaled / den) - 52
  pack negative (Rounding.nearest scaled (den * Nat.pow 2 scale)) scale

/-- The double nearest to a number of units over `den`; the sign of zero is given. -/
def ofUnits (zeroSign : Bool) (units : Int) (den : Nat) : Binary64 :=
  if units = 0 then zero zeroSign
  else ofRatio (decide (units < 0)) units.natAbs (den * unitsOfOne)

/-- The double nearest to a quotient of an integer by a positive natural. -/
def ofQuotient (num : Int) (den : Nat) : Binary64 := ofRatio (decide (num < 0)) num.natAbs den

/-- The double nearest to an integer, infinite beyond the largest finite one. -/
def ofInt (n : Int) : Binary64 := ofQuotient n 1

/-- The double nearest to `num / den` for integers, with `none` for a zero divisor. -/
def ofIntRatio? (num den : Int) : Option Binary64 :=
  if den = 0 then none
  else some (ofRatio (decide (num < 0) != decide (den < 0) && num != 0) num.natAbs den.natAbs)

/-- Not a number? -/
def isNaN : Binary64 → Bool
  | .nan => true
  | _ => false

/-- Neither infinite nor not a number? -/
def isFinite : Binary64 → Bool
  | .finite .. => true
  | _ => false

/-- The sign; not a number counts as positive. -/
def isNegative : Binary64 → Bool
  | .nan => false
  | .infinite negative => negative
  | .finite negative _ _ _ => negative

/-- Zero of either sign? -/
def isZero : Binary64 → Bool
  | .finite _ mantissa _ _ => mantissa = 0
  | _ => false

/-- The number with the other sign. -/
def neg : Binary64 → Binary64
  | .nan => .nan
  | .infinite negative => .infinite (!negative)
  | .finite negative mantissa scale h => .finite (!negative) mantissa scale h

/-- The sum, rounded once. -/
def add (x y : Binary64) : Binary64 :=
  match x, y with
  | .nan, _ => .nan
  | _, .nan => .nan
  | .infinite s, .infinite t => if s = t then .infinite s else .nan
  | .infinite s, _ => .infinite s
  | _, .infinite t => .infinite t
  | .finite s m e _, .finite t n f _ =>
    ofUnits (s && t) (signed s (m * Nat.pow 2 e) + signed t (n * Nat.pow 2 f)) 1

/-- The difference, rounded once. -/
def sub (x y : Binary64) : Binary64 := x.add y.neg

/-- The product, rounded once. -/
def mul (x y : Binary64) : Binary64 :=
  match x, y with
  | .nan, _ => .nan
  | _, .nan => .nan
  | .infinite s, y => if y.isZero then .nan else .infinite (s != y.isNegative)
  | x, .infinite t => if x.isZero then .nan else .infinite (x.isNegative != t)
  | .finite s m e _, .finite t n f _ =>
    ofRatio (s != t) (m * Nat.pow 2 e * (n * Nat.pow 2 f)) (unitsOfOne * unitsOfOne)

/-- The numbers compare as `x < y`; never true of not a number. -/
def lt : Binary64 → Binary64 → Bool
  | .nan, _ => false
  | _, .nan => false
  | .infinite s, .infinite t => s && !t
  | .infinite s, _ => s
  | _, .infinite t => !t
  | x@(.finite ..), y@(.finite ..) => decide (x.signedUnits?.getD 0 < y.signedUnits?.getD 0)

/-- The numbers compare as `x ≤ y`; never true of not a number. -/
def le (x y : Binary64) : Bool := !x.isNaN && !y.isNaN && !y.lt x

/-- The numbers compare as equal: zeros of both signs do, not a number does not. -/
def numEq (x y : Binary64) : Bool := x.le y && y.le x

/-- The integer part of a finite number, toward zero. -/
def truncate? (x : Binary64) : Option Int :=
  x.units?.map fun (negative, units) =>
    let whole : Int := ((units / unitsOfOne : Nat) : Int)
    if negative then -whole else whole

/-- The nearest integer of a finite number, a half going to the even neighbour. -/
def roundToInt? (x : Binary64) : Option Int :=
  x.signedUnits?.map fun units => Rounding.nearestInt units unitsOfOne

/-- A finite number without fractional part? -/
def isIntegral (x : Binary64) : Bool :=
  match x.units? with
  | some (_, units) => units % unitsOfOne = 0
  | none => false

/-- The fractional and the integer part of a finite number, both with its sign. -/
def splitFraction? (x : Binary64) : Option (Binary64 × Binary64) :=
  x.units?.map fun (negative, units) =>
    (ofRatio negative (units % unitsOfOne) unitsOfOne,
      ofRatio negative (units / unitsOfOne) 1)

/-- The remainder of a finite number by a positive integer, with the sign of the number. -/
def remainder? (x : Binary64) (d : Nat) : Option Binary64 :=
  x.units?.map fun (negative, units) => ofRatio negative (units % (unitsOfOne * d)) unitsOfOne

/-- The quotient of a number by a positive integer, rounded once. -/
def divNat (x : Binary64) (d : Nat) : Binary64 :=
  match x with
  | .finite negative m e _ => ofRatio negative (m * Nat.pow 2 e) (unitsOfOne * d)
  | _ => x

/-- The integer nearest to a finite number, a half going down. -/
def nearestDown (x : Binary64) : Binary64 :=
  match x.signedUnits? with
  | some units =>
    let whole := Int.fdiv units unitsOfOne
    if units = 0 then x
    else if (unitsOfOne : Int) < 2 * (units - whole * unitsOfOne) then ofInt (whole + 1)
    else ofInt whole
  | none => x

/-- The quotient of a number by a positive integer rounded down. The remainder is taken off
first, each step is rounded, and a negative number with a remainder loses one more. -/
def floorDiv (x : Binary64) (d : Nat) : Binary64 :=
  match x.remainder? d with
  | none => .nan
  | some rest =>
    let quotient := (x.sub rest).divNat d
    let lowered :=
      if !rest.isZero && x.isNegative then quotient.add (ofInt (-1)) else quotient
    if lowered.isZero then zero x.isNegative else lowered.nearestDown

end Binary64

end RuleFixtures
