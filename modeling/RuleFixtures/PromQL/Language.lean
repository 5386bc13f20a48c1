import RuleFixtures.PromQL.Grammar

/-!
The language of queries as the program takes it: how a query is read and how a selector is written.

* `Language` has both; what is said of dependencies, reports and fixtures holds for any of it.
* `Language.own` is the grammar of `PromQL.Grammar` with `Selector.canonicalText`.
-/

namespace RuleFixtures.PromQL

/-- How queries are read and selectors written. -/
class Language where
  /-- The expression of a query, or the reason for which it does not read. -/
  parse : String → Except String Expr
  /-- The text of a selector. -/
  write : Selector → String

/-- The grammar of queries, with selectors in their canonical form. -/
instance Language.own : Language where
  parse query := match Expr.parse? query with
    | some e => .ok e
    | none => .error "no expression found in input"
  write := Selector.canonicalText

end RuleFixtures.PromQL
