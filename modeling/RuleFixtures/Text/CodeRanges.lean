/-!
Sets of characters given as closed ranges of code points, ascending and apart.

* `CodeRanges.contains` is membership, decided by bisection of the sorted ranges.
-/

namespace RuleFixtures

/-- Closed ranges of code points, ascending and apart. -/
structure CodeRanges where
  ranges : Array (Nat × Nat)

namespace CodeRanges

/-- Builds a set from its ranges. -/
def ofList (ranges : List (Nat × Nat)) : CodeRanges := ⟨ranges.toArray⟩

/-- Searches for the range around `code` among those at the indices from `low` on, `width` of
them at most. -/
def search (set : CodeRanges) (code : Nat) (low width : Nat) : Bool :=
  if width = 0 then false
  else
    let middle := low + width / 2
    match set.ranges[middle]? with
    | none => search set code low (width / 2)
    | some (first, last) =>
      if code < first then search set code low (width / 2)
      else if last < code then search set code (middle + 1) (width - width / 2 - 1)
      else true
  termination_by width

/-- Is the code point in one of the ranges? -/
def contains (set : CodeRanges) (code : Nat) : Bool := set.search code 0 set.ranges.size

end CodeRanges

end RuleFixtures
