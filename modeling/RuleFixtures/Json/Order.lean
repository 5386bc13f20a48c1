import RuleFixtures.Fault

/-!
The order of values that serve as names and keys.

Texts are ordered by their characters and numbers by their values; a text and a number do not
compare, and other values do not compare at all.

* `Json.sortBy` sorts, keeping the order of equal keys; it fails at the first key that does not
  compare with the one before it.
-/

namespace RuleFixtures.Json

/-- What a key is compared as. -/
inductive SortKey where
  | text (value : String)
  /-- A number as its rank, infinities being outermost, and its value in units. -/
  | number (rank units : Int)

/-- What a value is compared as; none for values that do not compare. -/
def sortKey? : Json → Option SortKey
  | .text s => some (.text s)
  | .bool b => some (.number 0 (if b then Binary64.unitsOfOne else 0))
  | .int n => some (.number 0 (n * Binary64.unitsOfOne))
  | .float x => match x with
    | .nan => some (.number 2 0)
    | .infinite negative => some (.number (if negative then -1 else 1) 0)
    | finite => some (.number 0 (finite.signedUnits?.getD 0))
  | _ => none

/-- Is the first key at most the second? Keys of different sorts are not asked for. -/
def SortKey.le : SortKey → SortKey → Bool
  | .text a, .text b => decide (a ≤ b)
  | .number r a, .number s b => decide (r < s) || (r = s && decide (a ≤ b))
  | .text _, .number _ _ => true
  | .number _ _, .text _ => false

/-- Do the keys compare? -/
def SortKey.alike : SortKey → SortKey → Bool
  | .text _, .text _ => true
  | .number _ _, .number _ _ => true
  | _, _ => false

/-- Is the first value at most the second, as a key? -/
def keyLe (a b : Json) : Bool :=
  match sortKey? a, sortKey? b with
  | some x, some y => x.le y
  | _, _ => true

/-- Fails at the first value that does not compare with the one before it. -/
def checkComparable : List Json → Except ShapeFault Unit
  | a :: b :: rest =>
    match sortKey? a, sortKey? b with
    | some x, some y =>
      if x.alike y then checkComparable (b :: rest)
      else .error (.incomparable b.typeName a.typeName)
    | _, _ => .error (.incomparable b.typeName a.typeName)
  | _ => .ok ()

/-- Sorts by a key, keeping the order of equal keys. -/
def sortBy {α : Type} (key : α → Json) (values : List α) : Except ShapeFault (List α) := do
  checkComparable (values.map key)
  return values.mergeSort fun a b => keyLe (key a) (key b)

/-- Lists and objects cannot be keys of a map. -/
def checkHashable : Json → Except ShapeFault Unit
  | .list _ => .error (.unhashable "list")
  | .object _ => .error (.unhashable "dict")
  | _ => .ok ()

end RuleFixtures.Json
