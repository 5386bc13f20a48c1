import Mathlib.Data.List.Sort
import Mathlib.Data.String.Basic
import Mathlib.Tactic
import RuleFixtures.PromQL.Dependencies

/-!
The metric names that an expression mentions.

* `Expr.mentions` lists the names of the selectors in an expression, in preorder and with
  repetitions.
* `foldl_addDistinct`: adding texts one by one leaves out the later repetitions.
* `DependencySet.keys_ofExpr`: the set of an expression has the names that are kept, in the order
  of their first mention.
-/

namespace RuleFixtures.PromQL

@[grind =]
lemma Selector.metric?_eq_some_iff {s : Selector} {name : String} :
    s.metric? = some name ↔ s.name = some name ∧ name ≠ "" := by
  simp [metric?, Option.filter_eq_some_iff]

/-- The metric name of an expression that is a selector. -/
def Expr.selectorName? : Expr → Option String
  | .selector s => s.metric?
  | _ => none

/-- The metric names of the selectors in an expression, in preorder. -/
def Expr.mentions (e : Expr) : List String := e.preorder.filterMap Expr.selectorName?

/-- An empty name is none. -/
lemma Expr.empty_notMem_mentions (e : Expr) : "" ∉ e.mentions := by
  rw [mentions, List.mem_filterMap]
  rintro ⟨part, -, hname⟩
  cases part with
  | selector s => exact (Selector.metric?_eq_some_iff.1 hname).2 rfl
  | _ => cases hname

/-! ### Distinct texts -/

/-- A text is added to a list without repetitions as a repetition would be left out. -/
lemma addDistinct_eraseDups (texts : List String) (text : String) :
    addDistinct texts.eraseDups text = (texts ++ [text]).eraseDups := by
  rw [List.eraseDups_append, addDistinct]
  by_cases h : text ∈ texts
  · simp [h, List.removeAll]
  · simp [h, List.removeAll, List.eraseDups_cons]

/-- Adding texts one by one leaves out the later repetitions. -/
theorem foldl_addDistinct (known texts : List String) :
    texts.foldl addDistinct known.eraseDups = (known ++ texts).eraseDups := by
  induction texts generalizing known with
  | nil => rw [List.foldl_nil, List.append_nil]
  | cons text rest ih =>
    rw [List.foldl_cons, addDistinct_eraseDups, ih, List.append_assoc, List.singleton_append]

/-- Picking out texts commutes with leaving out repetitions. -/
lemma filter_eraseDups (keep : String → Bool) (texts : List String) :
    texts.eraseDups.filter keep = (texts.filter keep).eraseDups := by
  induction texts using List.reverseRecOn with
  | nil => rfl
  | append_singleton texts text ih =>
    rw [← addDistinct_eraseDups, List.filter_append, List.filter_singleton]
    cases hkeep : keep text with
    | true =>
      rw [cond_true, ← addDistinct_eraseDups, ← ih, addDistinct, addDistinct]
      split <;> simp_all
    | false =>
      rw [cond_false, List.append_nil, ← ih, addDistinct]
      split <;> simp [hkeep]

/-- Picking out texts commutes with sorting. -/
lemma filter_sortTexts (keep : String → Bool) (texts : List String) :
    (sortTexts texts).filter keep = sortTexts (texts.filter keep) := by
  have hsorted (texts : List String) : (sortTexts texts).Pairwise (· ≤ ·) :=
    List.pairwise_mergeSort' (· ≤ ·) texts
  have hperm : ((sortTexts texts).filter keep).Perm (sortTexts (texts.filter keep)) :=
    ((List.mergeSort_perm _ _).filter keep).trans (List.mergeSort_perm _ _).symm
  exact hperm.eq_of_pairwise (fun _ _ _ _ => le_antisymm)
    ((hsorted texts).sublist List.filter_sublist) (hsorted _)

/-- No text is left twice. -/
lemma nodup_eraseDups (texts : List String) : texts.eraseDups.Nodup := by
  induction texts using List.reverseRecOn with
  | nil => exact List.nodup_nil
  | append_singleton texts text ih =>
    rw [← addDistinct_eraseDups, addDistinct]
    split
    · exact ih
    · next h => simpa using List.Nodup.concat h ih

namespace DependencySet

/-- The names of a set with a further selector. -/
lemma keys_add (set : DependencySet) (name text : String) :
    (set.add name text).selectors.keys = addDistinct set.selectors.keys name := by
  rw [add, OrderedMap.keys_alter, addDistinct]

variable [Language]

/-- The names after an expression is taken up. -/
lemma keys_visitM (keep : String → Bool) (set : DependencySet) (e : Expr) :
    (Id.run (visitM (fun name => pure (keep name)) set e)).selectors.keys =
      (e.selectorName?.toList.filter keep).foldl addDistinct set.selectors.keys := by
  cases e with
  | selector s =>
    rcases hname : s.metric? with _ | name
    · simp [visitM, Expr.selectorName?, hname, addUnnamed]
    · cases hkeep : keep name with
      | false => simp [visitM, Expr.selectorName?, hname, hkeep]
      | true => simp [visitM, Expr.selectorName?, hname, hkeep, keys_add]
  | _ => rfl

/-- The names after several expressions are taken up. -/
lemma keys_collectM (keep : String → Bool) (set : DependencySet) (es : List Expr) :
    (Id.run (collectM (fun name => pure (keep name)) set es)).selectors.keys =
      ((es.filterMap Expr.selectorName?).filter keep).foldl addDistinct set.selectors.keys := by
  induction es generalizing set with
  | nil => rfl
  | cons e rest ih =>
    have hnames : (e :: rest).filterMap Expr.selectorName? =
        e.selectorName?.toList ++ rest.filterMap Expr.selectorName? := by
      cases h : e.selectorName? <;> simp [h]
    have hvisit := keys_visitM keep set e
    rw [hnames, List.filter_append, List.foldl_append, ← hvisit, ← ih]
    rfl

/-- The names of the set of an expression: those that are kept, without repetitions, in the order
in which they are first mentioned. -/
theorem keys_ofExpr (keep : String → Bool) (e : Expr) :
    (ofExpr keep e).selectors.keys = (e.mentions.filter keep).eraseDups := by
  have hkeys := keys_collectM keep empty e.nodes
  rw [Expr.nodes_eq_preorder] at hkeys
  have hfold := foldl_addDistinct [] (e.mentions.filter keep)
  rw [List.eraseDups_nil, List.nil_append] at hfold
  rw [← hfold]
  rw [ofExpr, ofExprM, Expr.nodes_eq_preorder, hkeys]
  rfl

end DependencySet

end RuleFixtures.PromQL
