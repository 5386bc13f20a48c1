/-!
The shapes of query results.

* `ResultKind` lists the four shapes; `ResultKind.name` and `ResultKind.ofName?` go to and from
  their names.
-/

namespace RuleFixtures

/-- The shape of a query result. -/
inductive ResultKind where
  | scalar
  | string
  | vector
  | matrix
  deriving DecidableEq, Repr

/-- The name of a shape in documents and messages. -/
def ResultKind.name : ResultKind → String
  | .scalar => "scalar"
  | .string => "string"
  | .vector => "vector"
  | .matrix => "matrix"

/-- The shape of a name. -/
def ResultKind.ofName? : String → Option ResultKind
  | "scalar" => some .scalar
  | "string" => some .string
  | "vector" => some .vector
  | "matrix" => some .matrix
  | _ => none

end RuleFixtures
