import RuleFixtures.PromQL.Expr

/-!
The types of expressions.

* `Expr.valueType` is the type an expression has if its parts have the right ones.
* `Expr.isWellTyped` checks all parts: operands, arguments, parameters and selectors.
* `signature?` gives the arguments and the result of each function.
-/

namespace RuleFixtures.PromQL

/-- What an expression evaluates to. -/
inductive ValueType where
  | text
  | scalar
  | vector
  | matrix
  deriving DecidableEq

/-- The arguments of a function: those it needs, those that may follow, and a type of which any
number may come last. -/
structure Signature where
  required : List ValueType
  optional : List ValueType
  repeated : Option ValueType
  result : ValueType

/-! ### Functions -/

/-- The functions of a vector. -/
def vectorFunctions : List String :=
  ["abs", "absent", "acos", "acosh", "asin", "asinh", "atan", "atanh", "ceil", "cos", "cosh",
   "deg", "exp", "floor", "histogram_avg", "histogram_count", "histogram_stddev",
   "histogram_stdvar", "histogram_sum", "ln", "log10", "log2", "rad", "sgn", "sin", "sinh", "sort",
   "sort_desc", "sqrt", "tan", "tanh", "timestamp"]

/-- The functions of the samples over a duration. -/
def matrixFunctions : List String :=
  ["absent_over_time", "avg_over_time", "changes", "count_over_time", "delta", "deriv",
   "first_over_time", "idelta", "increase", "irate", "last_over_time", "mad_over_time",
   "max_over_time", "min_over_time", "present_over_time", "rate", "resets", "stddev_over_time",
   "stdvar_over_time", "sum_over_time"]

/-- The functions of the time that takes a vector when given one. -/
def calendarFunctions : List String :=
  ["days_in_month", "day_of_month", "day_of_week", "day_of_year", "hour", "minute", "month",
   "year"]

/-- The other functions. -/
def otherFunctions : List (String × Signature) :=
  [("scalar", ⟨[.vector], [], none, .scalar⟩),
   ("pi", ⟨[], [], none, .scalar⟩),
   ("time", ⟨[], [], none, .scalar⟩),
   ("vector", ⟨[.scalar], [], none, .vector⟩),
   ("clamp_max", ⟨[.vector, .scalar], [], none, .vector⟩),
   ("clamp_min", ⟨[.vector, .scalar], [], none, .vector⟩),
   ("round", ⟨[.vector], [.scalar], none, .vector⟩),
   ("clamp", ⟨[.vector, .scalar, .scalar], [], none, .vector⟩),
   ("histogram_quantile", ⟨[.scalar, .vector], [], none, .vector⟩),
   ("histogram_fraction", ⟨[.scalar, .scalar, .vector], [], none, .vector⟩),
   ("predict_linear", ⟨[.matrix, .scalar], [], none, .vector⟩),
   ("quantile_over_time", ⟨[.scalar, .matrix], [], none, .vector⟩),
   ("double_exponential_smoothing", ⟨[.matrix, .scalar, .scalar], [], none, .vector⟩),
   ("label_replace", ⟨[.vector, .text, .text, .text, .text], [], none, .vector⟩),
   ("label_join", ⟨[.vector, .text, .text, .text], [], some .text, .vector⟩),
   ("sort_by_label", ⟨[.vector], [], some .text, .vector⟩),
   ("sort_by_label_desc", ⟨[.vector], [], some .text, .vector⟩)]

/-- The arguments and the result of a function. -/
def signature? (function : String) : Option Signature :=
  if vectorFunctions.contains function then some ⟨[.vector], [], none, .vector⟩
  else if matrixFunctions.contains function then some ⟨[.matrix], [], none, .vector⟩
  else if calendarFunctions.contains function then some ⟨[], [.vector], none, .vector⟩
  else (otherFunctions.find? fun entry => entry.1 = function).map Prod.snd

/-- Do the types of the arguments fit what may follow the required ones? -/
def fitsRest (repeated : Option ValueType) : List ValueType → List ValueType → Bool
  | _, [] => true
  | t :: optional, a :: arguments => t = a && fitsRest repeated optional arguments
  | [], a :: arguments => repeated = some a && fitsRest repeated [] arguments

/-- Do the types of the arguments fit the signature? -/
def Signature.fits (s : Signature) (arguments : List ValueType) : Bool :=
  arguments.take s.required.length = s.required &&
    fitsRest s.repeated s.optional (arguments.drop s.required.length)

/-! ### Operators and aggregations -/

/-- The operators that compare. -/
def BinaryOp.isComparison : BinaryOp → Bool
  | .equal | .notEqual | .less | .atMost | .greater | .atLeast => true
  | _ => false

/-- The operators on sets of series. -/
def BinaryOp.isSetOperator : BinaryOp → Bool
  | .and | .or | .unless => true
  | _ => false

/-- The type of the parameter of an aggregation, if it has one. -/
def Aggregation.parameterType : Aggregation → Option ValueType
  | .topk | .bottomk | .quantile | .limitk | .limitRatio => some .scalar
  | .countValues => some .text
  | _ => none

/-- Scalars and vectors are the operands of operators. -/
def ValueType.isOperand : ValueType → Bool
  | .scalar | .vector => true
  | _ => false

/-- May the operands be matched in this way? Labels are for two vectors, a set operator has no
side with many series, and no label is both matched on and taken over. -/
def Matching.fits (m : Matching) (op : BinaryOp) (left right : ValueType) : Bool :=
  (m.labels.isEmpty || (left = .vector && right = .vector)) &&
    match m.group with
    | none => true
    | some (_, included) =>
      !op.isSetOperator && !(m.isOn && m.labels.any included.contains)

/-- May the operator be applied to operands of these types? -/
def BinaryOp.fits (op : BinaryOp) (returnsBool : Bool) (matching : Option Matching)
    (left right : ValueType) : Bool :=
  left.isOperand && right.isOperand &&
    (!returnsBool || op.isComparison) &&
    (!(op.isComparison && left = .scalar && right = .scalar) || returnsBool) &&
    (!op.isSetOperator || (left = .vector && right = .vector)) &&
    ((matching.map fun m => m.fits op left right).getD true)

namespace Expr

/-- The type of an expression whose parts have the right types. -/
def valueType : Expr → ValueType
  | .number _ => .scalar
  | .text _ => .text
  | .selector _ => .vector
  | .range _ _ => .matrix
  | .subquery .. => .matrix
  | .call function _ => ((signature? function).map Signature.result).getD .vector
  | .binary _ _ _ left right =>
    if left.valueType = .scalar && right.valueType = .scalar then .scalar else .vector
  | .aggregate .. => .vector
  | .aggregateWith .. => .vector
  | .negation body => body.valueType
  | .paren body => body.valueType

/-- The types of the expressions of a list. -/
def valueTypes (es : List Expr) : List ValueType := es.map valueType

mutual

/-- Do all parts of the expression have the right types, and are its selectors accepted? -/
def isWellTyped : Expr → Bool
  | .number _ => true
  | .text _ => true
  | .selector s => s.isWellFormed
  | .range s _ => s.isWellFormed
  | .subquery body _ _ _ _ => body.isWellTyped && body.valueType = .vector
  | .call function arguments =>
    areWellTyped arguments &&
      ((signature? function).map fun s => s.fits (valueTypes arguments)).getD false
  | .binary op returnsBool matching left right =>
    left.isWellTyped && right.isWellTyped &&
      op.fits returnsBool matching left.valueType right.valueType
  | .aggregate op _ body =>
    body.isWellTyped && body.valueType = .vector && op.parameterType = none
  | .aggregateWith op _ body parameter =>
    body.isWellTyped && parameter.isWellTyped && body.valueType = .vector &&
      op.parameterType = some parameter.valueType
  | .negation body => body.isWellTyped && body.valueType.isOperand
  | .paren body => body.isWellTyped

/-- Are all expressions of a list well typed? -/
def areWellTyped : List Expr → Bool
  | [] => true
  | e :: rest => e.isWellTyped && areWellTyped rest

end

end Expr

end RuleFixtures.PromQL
