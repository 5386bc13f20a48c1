import RuleFixtures.PromQL.Expr

/-!
Visiting an expression with a stack of what is still to be visited.

* `Expr.walk` takes the top of the stack, visits it, and puts its parts on the stack, the first
  of them on top.
* `Expr.walk_eq_preorderAll`: a stack is visited as the preorder of its members, top first.
* `Expr.nodes_eq_preorder`: an expression is visited in preorder.
-/

namespace RuleFixtures.PromQL.Expr

mutual

/-- The number of expressions in an expression, itself included. -/
def size : Expr → Nat
  | .range _ _ => 2
  | .subquery body _ _ _ _ => body.size + 1
  | .call _ arguments => sizeAll arguments + 1
  | .binary _ _ _ left right => left.size + right.size + 1
  | .aggregate _ _ body => body.size + 1
  | .aggregateWith _ _ body parameter => body.size + parameter.size + 1
  | .negation body => body.size + 1
  | .paren body => body.size + 1
  | _ => 1

/-- The number of expressions in those of a list. -/
def sizeAll : List Expr → Nat
  | [] => 0
  | e :: rest => e.size + sizeAll rest

end

theorem size_eq (e : Expr) : e.size = sizeAll e.children + 1 := by
  cases e <;> simp only [size, sizeAll, children] <;> omega

theorem sizeAll_append (xs ys : List Expr) : sizeAll (xs ++ ys) = sizeAll xs + sizeAll ys := by
  induction xs with
  | nil => simp [sizeAll]
  | cons x xs ih => simp [sizeAll, ih]; omega

/-- Visits what is on the stack: takes its top, and puts the parts of the top on the rest. -/
def walk (stack : List Expr) : List Expr :=
  match stack with
  | [] => []
  | e :: rest => e :: walk (e.children ++ rest)
  termination_by sizeAll stack
  decreasing_by
    have := size_eq e
    simp only [sizeAll, sizeAll_append]
    omega

/-- The expressions visited from a root. -/
def nodes (root : Expr) : List Expr := walk [root]

theorem preorder_eq (e : Expr) : e.preorder = e :: preorderAll e.children := by
  cases e <;> simp [preorder, preorderAll, children]

theorem preorderAll_append (xs ys : List Expr) :
    preorderAll (xs ++ ys) = preorderAll xs ++ preorderAll ys := by
  induction xs with
  | nil => rfl
  | cons x xs ih => simp [preorderAll, ih]

theorem walk_eq_preorderAll (stack : List Expr) : walk stack = preorderAll stack := by
  fun_induction walk stack with
  | case1 => rfl
  | case2 e rest ih => simp [preorderAll, preorder_eq, ih, preorderAll_append]

theorem nodes_eq_preorder (root : Expr) : root.nodes = root.preorder := by
  simp [nodes, walk_eq_preorderAll, preorderAll]

end RuleFixtures.PromQL.Expr
