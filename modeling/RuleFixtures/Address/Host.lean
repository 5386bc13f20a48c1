import RuleFixtures.Text.Hex
import RuleFixtures.Text.Split

/-!
Numeric host addresses.

* `isVersionFour` holds of four numbers up to 255 with points between them, without leading zeros.
* `isVersionSix` holds of eight groups of up to four hexadecimal digits with colons between them.
  The last two may be written as an address of version four, and one run of zero groups may be
  left out.
-/

namespace RuleFixtures.Address

/-! ### Version four -/

/-- Is the text a number up to 255, without leading zeros? -/
def isOctet (s : List Char) : Bool :=
  !s.isEmpty && s.all Char.isDigit && s.length ≤ 3 && (s.head? != some '0' || s.length = 1)
    && Nat.ofDigitChars 10 s 0 ≤ 255

/-- Is the text an address of version four? -/
def isVersionFour (s : List Char) : Bool :=
  let parts := Text.splitAtChar '.' s
  parts.length = 4 && parts.all isOctet

/-- The lengths of the runs of digits between other characters. -/
def digitRuns : List Char → List Nat
  | [] => [0]
  | c :: rest =>
    if c.isDigit then match digitRuns rest with
      | run :: more => (run + 1) :: more
      | [] => [1]
    else 0 :: digitRuns rest

/-- Does the text look like four numbers with a character between them? Digits may be taken for
the characters between. -/
def looksVersionFour (s : List Char) : Bool :=
  let runs := digitRuns s
  runs.all (0 < ·) && runs.length ≤ 4 && !s.contains '\n'
    && 4 - runs.length ≤ runs.foldl (fun spare run => spare + (run - 1) / 2) 0

/-! ### Version six -/

/-- Is the text a group of an address of version six? -/
def isGroup (s : List Char) : Bool :=
  !s.isEmpty && s.length ≤ 4 && s.all fun c => (Text.hexValue? c).isSome

/-- The groups with an address of version four at the end counted as two groups. -/
def expandTail (groups : List (List Char)) : Option (List (List Char)) :=
  match groups.getLast? with
  | some tail =>
    if tail.contains '.' then
      if isVersionFour tail then some (groups.dropLast ++ [['0'], ['0']]) else none
    else some groups
  | none => some groups

/-- The positions, apart from both ends, at which a group is left out. -/
def gaps (groups : List (List Char)) : List Nat :=
  (List.range groups.length).filter fun i =>
    0 < i && i + 1 < groups.length && (groups.getD i []).isEmpty

/-- Are the groups of an address of version six complete? -/
def isGroups (groups : List (List Char)) : Bool :=
  match gaps groups with
  | [] => groups.length = 8 && groups.all isGroup
  | [gap] =>
    let before := groups.take gap
    let after := groups.drop (gap + 1)
    let before := if before.head? = some [] then before.drop 1 else before
    let after := if after.getLast? = some [] then after.dropLast else after
    ((groups.head? != some []) || before.isEmpty) && ((groups.getLast? != some []) || after.isEmpty)
      && before.length + after.length < 8 && before.all isGroup && after.all isGroup
  | _ => false

/-- Is the text an address of version six, perhaps with a scope? -/
def isVersionSix (s : List Char) : Bool :=
  let address := s.takeWhile (· ≠ '%')
  let scopeFits := match s.drop address.length with
    | [] => true
    | _ :: scope => !scope.isEmpty && !scope.contains '%'
  let groups := Text.splitAtChar ':' address
  scopeFits && !s.contains '/' && 3 ≤ groups.length &&
    match expandTail groups with
    | some expanded => expanded.length ≤ 9 && isGroups expanded
    | none => false

end RuleFixtures.Address
