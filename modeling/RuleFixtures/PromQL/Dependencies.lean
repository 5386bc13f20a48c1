import RuleFixtures.Act
import RuleFixtures.PromQL.Language
import RuleFixtures.PromQL.Walk

/-!
The selectors that an expression refers to.

* `DependencySet` keeps the distinct selector texts of each metric name, and those of selectors
  without a name, all in the order in which they came.
* `DependencySet.collectM` goes through expressions and asks a predicate once for each occurrence
  of a name; selectors without a name are always kept.
* `extract` reads a query and collects its selectors.

A `Language` says how queries are read and selectors written.
-/

namespace RuleFixtures.PromQL

/-- The metric name of a selector; an empty name is none. -/
def Selector.metric? (s : Selector) : Option String := s.name.filter (· ≠ "")

/-- Adds a text at the end of a list unless it is there. -/
def addDistinct (texts : List String) (text : String) : List String :=
  if text ∈ texts then texts else texts ++ [text]

/-- Texts in ascending order of their characters. -/
def sortTexts (texts : List String) : List String := texts.mergeSort fun a b => decide (a ≤ b)

variable [Language]

/-- The selectors of expressions by metric name. -/
structure DependencySet where
  selectors : OrderedMap String (List String)
  /-- The selectors that match by label only. -/
  unnamed : List String
  deriving DecidableEq, Inhabited

namespace DependencySet

/-- The set without selectors. -/
def empty : DependencySet := ⟨.empty, []⟩

/-- Adds a selector of a metric name. -/
def add (set : DependencySet) (name text : String) : DependencySet :=
  { set with selectors := set.selectors.alter name fun known => addDistinct (known.getD []) text }

/-- Adds a selector without a metric name. -/
def addUnnamed (set : DependencySet) (text : String) : DependencySet :=
  { set with unnamed := addDistinct set.unnamed text }

/-- The metric names, in ascending order. -/
def metricNames (set : DependencySet) : List String := sortTexts set.selectors.keys

/-- Is the metric name referred to? -/
def contains (set : DependencySet) (name : String) : Bool := set.selectors.contains name

/-- The number of metric names. -/
def size (set : DependencySet) : Nat := set.selectors.size

/-- Takes up an expression that is a selector; a named one only if the predicate keeps its name. -/
def visitM {m : Type → Type} [Monad m] (keep : String → m Bool) (set : DependencySet) :
    Expr → m DependencySet
  | .selector s => match s.metric? with
    | none => pure (set.addUnnamed (Language.write s))
    | some name => do
      if ← keep name then pure (set.add name (Language.write s)) else pure set
  | _ => pure set

/-- Takes up the selectors among the expressions, in order. -/
def collectM {m : Type → Type} [Monad m] (keep : String → m Bool) (set : DependencySet) :
    List Expr → m DependencySet
  | [] => pure set
  | e :: rest => do
    let grown ← visitM keep set e
    collectM keep grown rest

/-- The selectors in an expression and its parts. -/
def ofExprM {m : Type → Type} [Monad m] (keep : String → m Bool) (e : Expr) : m DependencySet :=
  collectM keep empty e.nodes

/-- The selectors in an expression and its parts, for a predicate without effects. -/
def ofExpr (keep : String → Bool) (e : Expr) : DependencySet :=
  Id.run (ofExprM (fun name => pure (keep name)) e)

/-- Reads a query and collects its selectors; the predicate is not asked if the query does not
read. -/
def ofQueryM {m : Type → Type} [Monad m] (keep : String → m Bool) (query : String) :
    m (Except Failure DependencySet) :=
  match Language.parse query with
  | .error reason => pure (.error (.unreadableExpression query reason))
  | .ok e => do
    let set ← ofExprM keep e
    pure (.ok set)

/-- Reads a query and collects its selectors, for a predicate without effects. -/
def ofQuery (keep : String → Bool) (query : String) : Except Failure DependencySet :=
  Id.run (ofQueryM (fun name => pure (keep name)) query)

end DependencySet

/-- The expression of a rule as a text; other values are no queries. -/
def queryText (query : Json) : Except Fault String :=
  match query with
  | .text text => .ok text
  | value => .error (.shape (.notQuery value.typeName))

/-- Reads a query and collects its selectors; those without a name are logged. -/
def extract {σ : Type} [Log.Journal σ] (keep : String → Bool) (query : Json) :
    Act σ DependencySet := do
  let text ← Act.ofExcept (queryText query)
  match DependencySet.ofQuery keep text with
  | .error failure => Act.fail (.failure failure)
  | .ok set => do
    if !set.unnamed.isEmpty then Act.log (.unnamedSelectors text set.unnamed)
    pure set

end RuleFixtures.PromQL
