import RuleFixtures.Proofs.PromQL.Names

/-!
The selectors that are collected from an expression.

The collection is compared with its definition on the tree: the selectors in preorder, those of a
name together, without repetitions.

* `Expr.selectors` lists the selectors in an expression, `Expr.textsOf` the texts of those with a
  name, or of those without.
* `DependencySet.asking` is a predicate that writes down the names it is asked about;
  `DependencySet.run_collectM` says which names these are.
* `DependencySet.get?_collectM` and `DependencySet.unnamed_collectM` say what a walk through
  expressions adds to a set.
* `DependencySet.Collects` is the definition of the collection, `DependencySet.collects_ofExpr`
  says that it is reached.
-/

namespace RuleFixtures.PromQL

/-- The selector that an expression is. -/
def Expr.selector? : Expr → Option Selector
  | .selector s => some s
  | _ => none

/-- The selectors in an expression, in preorder. -/
def Expr.selectors (e : Expr) : List Selector := e.preorder.filterMap Expr.selector?

lemma Expr.mentions_eq (e : Expr) : e.mentions = e.selectors.filterMap Selector.metric? := by
  rw [Expr.mentions, Expr.selectors, List.filterMap_filterMap]
  refine List.filterMap_congr fun part _ => ?_
  cases part <;> rfl

/-- The texts of the selectors with a metric name, or of those without. -/
def textsAmong [Language] (name : Option String) (selectors : List Selector) : List String :=
  (selectors.filter fun s => s.metric? = name).map Language.write

lemma textsAmong_append [Language] (name : Option String) (first second : List Selector) :
    textsAmong name (first ++ second) = textsAmong name first ++ textsAmong name second := by
  simp [textsAmong]

/-- The texts of the selectors in an expression with a name, or of those without, in preorder. -/
def Expr.textsOf [Language] (e : Expr) (name : Option String) : List String :=
  textsAmong name e.selectors

/-- The names that are mentioned are those with texts. -/
lemma Expr.mem_mentions_iff [Language] (e : Expr) (name : String) :
    name ∈ e.mentions ↔ e.textsOf (some name) ≠ [] := by
  rw [Expr.mentions_eq, List.mem_filterMap, Expr.textsOf, textsAmong]
  simp

namespace DependencySet

/-! ### A set and one more text -/

/-- The texts of a name, with one more. -/
def grown (known : Option (List String)) (text : String) : Option (List String) :=
  some (addDistinct (known.getD []) text)

lemma foldl_grown_some (known texts : List String) :
    texts.foldl grown (some known) = some (texts.foldl addDistinct known) := by
  induction texts generalizing known with
  | nil => rfl
  | cons text rest ih => exact ih (addDistinct known text)

/-- The texts of a name that had none. -/
lemma foldl_grown_none (texts : List String) :
    texts.foldl grown none = if texts = [] then none else some texts.eraseDups := by
  cases texts with
  | nil => rfl
  | cons text rest =>
    have hfold := foldl_addDistinct [] (text :: rest)
    rw [List.eraseDups_nil, List.nil_append] at hfold
    rw [if_neg (List.cons_ne_nil _ _), ← hfold]
    exact foldl_grown_some _ rest

lemma get?_add (set : DependencySet) (name text other : String) :
    (set.add name text).selectors.get? other =
      if other = name then grown (set.selectors.get? name) text
      else set.selectors.get? other := by
  split
  · next h => rw [h, add, OrderedMap.get?_alter_self, grown]
  · next h => rw [add, OrderedMap.get?_alter_of_ne _ h]

variable [Language]

/-! ### A walk through expressions -/

/-- The predicate as one that has no effect. -/
abbrev telling (keep : String → Bool) (name : String) : Id Bool := pure (keep name)

/-- The predicate as one that writes down the names it is asked about. -/
def asking (keep : String → Bool) (name : String) : StateM (List String) Bool := do
  modify fun asked => asked ++ [name]
  return keep name

variable (keep : String → Bool)

/-- The texts of a name that a walk through selectors takes up. -/
def keptTexts (name : String) (selectors : List Selector) : List String :=
  if keep name then textsAmong (some name) selectors else []

lemma keptTexts_append (name : String) (first second : List Selector) :
    keptTexts keep name (first ++ second) =
      keptTexts keep name first ++ keptTexts keep name second := by
  unfold keptTexts
  split
  · exact textsAmong_append (some name) first second
  · rfl

lemma get?_visitM (set : DependencySet) (e : Expr) (name : String) :
    (Id.run (visitM (telling keep) set e)).selectors.get? name =
      (keptTexts keep name e.selector?.toList).foldl grown (set.selectors.get? name) := by
  cases e with
  | selector s =>
    rcases hname : s.metric? with _ | own
    · simp [visitM, hname, addUnnamed, Expr.selector?, keptTexts, textsAmong]
    · by_cases hown : name = own
      · subst hown
        cases hkeep : keep name <;>
          simp [visitM, hname, hkeep, get?_add, Expr.selector?, keptTexts, textsAmong]
      · have hother : own ≠ name := fun h => hown h.symm
        cases hkeep : keep own <;>
          simp [visitM, hname, hkeep, get?_add, hown, hother, Expr.selector?, keptTexts, textsAmong]
  | _ => simp [visitM, Expr.selector?, keptTexts, textsAmong]

lemma unnamed_visitM (set : DependencySet) (e : Expr) :
    (Id.run (visitM (telling keep) set e)).unnamed =
      (textsAmong none e.selector?.toList).foldl addDistinct set.unnamed := by
  cases e with
  | selector s =>
    rcases hname : s.metric? with _ | own
    · simp [visitM, hname, addUnnamed, Expr.selector?, textsAmong]
    · cases hkeep : keep own <;>
        simp [visitM, hname, hkeep, add, Expr.selector?, textsAmong]
  | _ => simp [visitM, Expr.selector?, textsAmong]

/-- A name is asked about where it is met. -/
lemma run_visitM (set : DependencySet) (e : Expr) (asked : List String) :
    (visitM (asking keep) set e).run asked =
      (Id.run (visitM (telling keep) set e), asked ++ e.selectorName?.toList) := by
  cases e with
  | selector s =>
    rcases hname : s.metric? with _ | own
    · simp [visitM, hname, Expr.selectorName?]
      rfl
    · cases hkeep : keep own <;> simp [visitM, hname, hkeep, Expr.selectorName?, asking] <;> rfl
  | _ =>
    simp [visitM, Expr.selectorName?]
    rfl

lemma get?_collectM (set : DependencySet) (es : List Expr) (name : String) :
    (Id.run (collectM (telling keep) set es)).selectors.get? name =
      (keptTexts keep name (es.filterMap Expr.selector?)).foldl grown
        (set.selectors.get? name) := by
  simp only [List.filterMap_eq_flatMap_toList]
  induction es generalizing set with
  | nil => simp [collectM, keptTexts, textsAmong]
  | cons e rest ih =>
    rw [List.flatMap_cons, keptTexts_append, List.foldl_append, ← get?_visitM, ← ih]
    rfl

lemma unnamed_collectM (set : DependencySet) (es : List Expr) :
    (Id.run (collectM (telling keep) set es)).unnamed =
      (textsAmong none (es.filterMap Expr.selector?)).foldl addDistinct set.unnamed := by
  simp only [List.filterMap_eq_flatMap_toList]
  induction es generalizing set with
  | nil => simp [collectM, textsAmong]
  | cons e rest ih =>
    rw [List.flatMap_cons, textsAmong_append, List.foldl_append, ← unnamed_visitM, ← ih]
    rfl

/-- The names are asked about in the order of the walk, once for each time they are met. -/
lemma run_collectM (set : DependencySet) (es : List Expr) (asked : List String) :
    (collectM (asking keep) set es).run asked =
      (Id.run (collectM (telling keep) set es), asked ++ es.filterMap Expr.selectorName?) := by
  simp only [List.filterMap_eq_flatMap_toList]
  induction es generalizing set asked with
  | nil => rw [List.flatMap_nil, List.append_nil]; rfl
  | cons e rest ih =>
    rw [collectM, StateT.run_bind, run_visitM, List.flatMap_cons, ← List.append_assoc]
    exact ih _ _

/-! ### The collection of an expression -/

/-- The definition of the collection: the names that are kept in the order in which they are first
mentioned, each with its distinct texts, and the distinct texts of the selectors without a name. -/
structure Collects (set : DependencySet) (e : Expr) : Prop where
  entries : set.selectors.entries = (e.mentions.filter keep).eraseDups.map fun name =>
    (name, (e.textsOf (some name)).eraseDups)
  unnamed : set.unnamed = (e.textsOf none).eraseDups

/-- The texts of the names that are kept. -/
lemma get?_ofExpr (e : Expr) {name : String} (h : name ∈ (ofExpr keep e).selectors.keys) :
    (ofExpr keep e).selectors.get? name = some (e.textsOf (some name)).eraseDups := by
  rw [keys_ofExpr, List.mem_eraseDups, List.mem_filter] at h
  have hwalk := get?_collectM keep empty e.nodes name
  rw [Expr.nodes_eq_preorder, keptTexts, if_pos h.2] at hwalk
  have htexts : textsAmong (some name) (e.preorder.filterMap Expr.selector?) ≠ [] :=
    (e.mem_mentions_iff name).1 h.1
  rw [ofExpr, ofExprM, Expr.nodes_eq_preorder, hwalk]
  exact (foldl_grown_none _).trans (if_neg htexts)

/-- What is collected from an expression. -/
theorem collects_ofExpr (e : Expr) : (ofExpr keep e).Collects keep e where
  entries := by
    rw [← keys_ofExpr]
    exact OrderedMap.entries_eq_map _ fun name => get?_ofExpr keep e
  unnamed := by
    have hwalk := unnamed_collectM keep empty e.nodes
    have hfold := foldl_addDistinct [] (e.textsOf none)
    rw [List.eraseDups_nil, List.nil_append] at hfold
    rw [← hfold, ofExpr, ofExprM, hwalk, Expr.nodes_eq_preorder]
    rfl

variable {keep} in
/-- What is collected with a predicate is the part of the whole collection that it keeps. -/
lemma Collects.restrict {set whole : DependencySet} {e : Expr} (hset : set.Collects keep e)
    (hwhole : whole.Collects (fun _ => true) e) :
    set.selectors.entries = (whole.selectors.entries.filter fun entry => keep entry.1) ∧
      set.unnamed = whole.unnamed := by
  refine ⟨?_, hset.unnamed.trans hwhole.unnamed.symm⟩
  rw [hset.entries, hwhole.entries, List.filter_map, List.filter_true, ← filter_eraseDups]
  rfl

/-! ### The collection of a query -/

lemma ofQuery_eq (query : String) :
    ofQuery keep query = match Language.parse query with
      | .error reason => .error (.unreadableExpression query reason)
      | .ok e => .ok (ofExpr keep e) := by
  unfold ofQuery ofQueryM
  cases Language.parse query <;> rfl

lemma run_ofQueryM (query : String) (asked : List String) :
    (ofQueryM (asking keep) query).run asked = match Language.parse query with
      | .error reason => (.error (.unreadableExpression query reason), asked)
      | .ok e => (.ok (ofExpr keep e), asked ++ e.mentions) := by
  cases h : Language.parse query with
  | error reason => simp only [ofQueryM, h]; rfl
  | ok e =>
    have hwalk := run_collectM keep empty e.nodes asked
    simp only [ofQueryM, h, ofExprM, StateT.run_bind, hwalk, Expr.mentions,
      ← Expr.nodes_eq_preorder]
    rfl

end DependencySet

variable [Language] {σ : Type} [Log.Journal σ]

/-- What an extraction finds does not depend on what was logged before. -/
lemma extract_apply (keep : String → Bool) (query : Json) (s : σ) :
    (extract keep query s).1 =
      (queryText query).bind fun text => (DependencySet.ofQuery keep text).mapError .failure := by
  cases hquery : queryText query with
  | error fault =>
    rw [extract, Act.bind_apply, Act.ofExcept, hquery]
    rfl
  | ok text =>
    rw [extract, Act.bind_apply, Act.ofExcept, hquery]
    simp only [Except.bind]
    cases hset : DependencySet.ofQuery keep text with
    | error failure => rfl
    | ok set =>
      cases hunnamed : set.unnamed.isEmpty with
      | true => simp only [hunnamed]; rfl
      | false => simp only [hunnamed]; rfl

/-- The selectors of a query are those of its definition, and the predicate is asked about each
name where it is mentioned. A query that does not read is told with its text, and nothing is
asked. -/
theorem selectors_of_query (keep : String → Bool) (query : String) (asked : List String) (s : σ) :
    (extract keep (.text query) s).1 =
        ((DependencySet.ofQueryM (DependencySet.asking keep) query).run asked).1.mapError
          .failure ∧
      match Language.parse query with
      | .error reason => ∃ failure,
        (DependencySet.ofQueryM (DependencySet.asking keep) query).run asked =
            (.error failure, asked) ∧
          failure.category = .expression ∧ failure.details = [("expr", .text query)] ∧
          failure.message = "failed to parse expression: " ++ reason
      | .ok e => ∃ set whole,
        (DependencySet.ofQueryM (DependencySet.asking keep) query).run asked =
            (.ok set, asked ++ e.mentions) ∧
          "" ∉ e.mentions ∧ set.Collects keep e ∧
          DependencySet.ofQuery (fun _ => true) query = .ok whole ∧
          set.selectors.entries = (whole.selectors.entries.filter fun entry => keep entry.1) ∧
          set.unnamed = whole.unnamed := by
  have hrun := DependencySet.run_ofQueryM keep query asked
  have hextract := extract_apply keep (.text query) s
  have hquery := DependencySet.ofQuery_eq keep query
  have hwhole := DependencySet.ofQuery_eq (fun _ => true) query
  cases hparse : Language.parse query with
  | error reason =>
    rw [hparse] at hrun hquery
    refine ⟨?_, .unreadableExpression query reason, hrun, rfl, rfl, rfl⟩
    rw [hextract, hrun, queryText]
    exact congrArg (Except.mapError Fault.failure) hquery
  | ok e =>
    rw [hparse] at hrun hquery hwhole
    -- keeping some of the names restricts what is collected with all of them
    have hset := DependencySet.collects_ofExpr keep e
    have hrestrict := hset.restrict (DependencySet.collects_ofExpr (fun _ => true) e)
    refine ⟨?_, DependencySet.ofExpr keep e, DependencySet.ofExpr (fun _ => true) e, hrun,
      e.empty_notMem_mentions, hset, hwhole, hrestrict.1, hrestrict.2⟩
    rw [hextract, hrun, queryText]
    exact congrArg (Except.mapError Fault.failure) hquery

end RuleFixtures.PromQL
