import RuleFixtures.PromQL.Selector

/-!
The expressions of the query language.

* `Expr` is the type of expressions.
* `Expr.children` lists the parts of an expression in the order in which they are visited: the
  main operand or both operands, then a parameter or the arguments.
* `Expr.preorder` lists an expression and all its parts, every one after those it is part of.
-/

namespace RuleFixtures.PromQL

/-- The operators between two operands. -/
inductive BinaryOp where
  | add | sub | mul | div | mod | pow | atan2
  | equal | notEqual | less | atMost | greater | atLeast
  | and | or | unless
  deriving DecidableEq

/-- The aggregations over the series of a vector. -/
inductive Aggregation where
  | sum | avg | min | max | count | group | stddev | stdvar
  | topk | bottomk | quantile | countValues | limitk | limitRatio
  deriving DecidableEq

/-- The side of a match that may have many series per series of the other. -/
inductive Side where
  | left
  | right
  deriving DecidableEq

/-- How the series of two operands are matched. -/
structure Matching where
  /-- By the labels listed, or by all the others. -/
  isOn : Bool
  labels : List String
  /-- The side with many series and the labels taken over from the other. -/
  group : Option (Side × List String)
  deriving DecidableEq

/-- The labels that an aggregation keeps or drops. -/
structure Grouping where
  isBy : Bool
  labels : List String
  deriving DecidableEq

/-- An expression of the query language. -/
inductive Expr where
  | number (value : Binary64)
  | text (value : String)
  | selector (selector : Selector)
  /-- The samples of a selector over a duration in milliseconds. -/
  | range (selector : Selector) (duration : Nat)
  /-- An expression evaluated over a duration at a step. -/
  | subquery (body : Expr) (duration : Nat) (step : Option Nat) (moment : Option Moment)
      (offset : Option Int)
  | call (function : String) (arguments : List Expr)
  | binary (op : BinaryOp) (returnsBool : Bool) (matching : Option Matching) (left right : Expr)
  /-- An aggregation of its main operand. -/
  | aggregate (op : Aggregation) (grouping : Option Grouping) (body : Expr)
  /-- An aggregation with a parameter. -/
  | aggregateWith (op : Aggregation) (grouping : Option Grouping) (body parameter : Expr)
  | negation (body : Expr)
  | paren (body : Expr)
  deriving Inhabited

namespace Expr

/-- The parts of an expression, in the order in which they are visited. -/
def children : Expr → List Expr
  | .number _ => []
  | .text _ => []
  | .selector _ => []
  | .range s _ => [.selector s]
  | .subquery body _ _ _ _ => [body]
  | .call _ arguments => arguments
  | .binary _ _ _ left right => [left, right]
  | .aggregate _ _ body => [body]
  | .aggregateWith _ _ body parameter => [body, parameter]
  | .negation body => [body]
  | .paren body => [body]

/-- The name of the kind of an expression. -/
def kindName : Expr → String
  | .number _ => "NumberLiteral"
  | .text _ => "StringLiteral"
  | .selector _ => "VectorSelector"
  | .range _ _ => "MatrixSelector"
  | .subquery .. => "SubqueryExpr"
  | .call _ _ => "Call"
  | .binary .. => "BinaryExpr"
  | .aggregate .. => "AggregateExpr"
  | .aggregateWith .. => "AggregateExpr"
  | .negation _ => "UnaryExpr"
  | .paren _ => "ParenExpr"

mutual

/-- An expression and all its parts, each before its own parts. -/
def preorder : Expr → List Expr
  | .number value => [.number value]
  | .text value => [.text value]
  | .selector s => [.selector s]
  | .range s duration => [.range s duration, .selector s]
  | .subquery body duration step moment offset =>
    .subquery body duration step moment offset :: body.preorder
  | .call function arguments => .call function arguments :: preorderAll arguments
  | .binary op returnsBool matching left right =>
    .binary op returnsBool matching left right :: (left.preorder ++ right.preorder)
  | .aggregate op grouping body => .aggregate op grouping body :: body.preorder
  | .aggregateWith op grouping body parameter =>
    .aggregateWith op grouping body parameter :: (body.preorder ++ parameter.preorder)
  | .negation body => .negation body :: body.preorder
  | .paren body => .paren body :: body.preorder

/-- The expressions of a list with all their parts, from left to right. -/
def preorderAll : List Expr → List Expr
  | [] => []
  | e :: rest => e.preorder ++ preorderAll rest

end

end Expr

end RuleFixtures.PromQL
