import RuleFixtures.Json.Basic
import RuleFixtures.Text.Blank
import RuleFixtures.Text.Split

/-!
The rules picked on the command line.

* `RuleSelection.ofFlags` collects the names of repeated flags, each holding names with commas
  between them: blanks around a name, empty names and repetitions do not count.
* `RuleSelection.selects` holds of the names picked, and of all names if none is.
* `RuleSelection.missingFrom` lists the names picked that are not available.
-/

namespace RuleFixtures

/-- Rule names picked on the command line; none picks all rules. -/
structure RuleSelection where
  names : List String
  deriving DecidableEq, Inhabited

namespace RuleSelection

/-- The selection of all rules. -/
def everything : RuleSelection := ⟨[]⟩

/-- The pieces of a flag between its commas, without the blanks around them. -/
def pieces (value : String) : List String :=
  (Text.splitAtChar ',' value.toList).map fun piece =>
    String.ofList (Text.trimList Text.isBlank piece)

/-- Adds a name at the end unless it is empty or there already. -/
def addName (names : List String) (name : String) : List String :=
  if name = "" || name ∈ names then names else names ++ [name]

/-- The selection of repeated flags. -/
def ofFlags (values : List String) : RuleSelection :=
  ⟨(values.flatMap pieces).foldl addName []⟩

/-- Are all rules picked? -/
def selectsAll (selection : RuleSelection) : Bool := selection.names.isEmpty

/-- Is the rule of a name picked? -/
def selects (selection : RuleSelection) (name : Json) : Bool :=
  selection.selectsAll || selection.names.any fun picked => name = .text picked

/-- The names picked that are not among those available. -/
def missingFrom (selection : RuleSelection) (available : List Json) : List String :=
  selection.names.filter fun name => !available.contains (.text name)

end RuleSelection

end RuleFixtures
