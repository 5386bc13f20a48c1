import RuleFixtures.Proofs.Fixtures.Comparison
import RuleFixtures.Proofs.Rules.Direct

/-!
The order of rules does not matter to what is filed, up to the order of definitions.

* `RuleGroup.Reordered` relates lists of groups that differ in the order of the groups and of their
  rules.
* `RuleCatalog.Files.isScraped_eq` and `RuleCatalog.Files.sortedNames_eq`: their catalogs have the
  same names.
* `Generator.agree_ruleMetrics`: a rule has the same metrics with both, up to their order.
-/

namespace RuleFixtures

/-! ### Groups in another order -/

namespace RuleGroup

/-- The groups in another order, and the rules in each of them. -/
def Reordered (groups others : List RuleGroup) : Prop :=
  ∃ middle, groups.Perm middle ∧
    List.Forall₂ (fun group other => group.name = other.name ∧ group.rules.Perm other.rules) middle
      others

/-- They have the same rules. -/
lemma Reordered.definitions_perm {groups others : List RuleGroup} (h : Reordered groups others) :
    (definitions groups).Perm (definitions others) := by
  obtain ⟨middle, hperm, hrules⟩ := h
  refine (hperm.flatMap_right _).trans ?_
  clear hperm
  induction hrules with
  | nil => exact .refl _
  | cons hrule _ ih =>
    rw [List.flatMap_cons, definitions, List.flatMap_cons, hrule.1]
    exact (hrule.2.map _).append ih

end RuleGroup

namespace RuleCatalog.Files

variable {catalog other : RuleCatalog} {definitions others : List RuleDefinition}
  (h : catalog.Files definitions) (hother : other.Files others) (hperm : definitions.Perm others)

include h hother hperm

/-- The definitions of a name are the same. -/
lemma perm_getD (kind : RuleKind) (name : Json) :
    (((catalog.table kind).get? name).getD []).Perm (((other.table kind).get? name).getD []) := by
  rw [h.found, hother.found]
  exact hperm.filter _

lemma perm_keys (kind : RuleKind) : (catalog.table kind).keys.Perm (other.table kind).keys := by
  refine (List.perm_ext_iff_of_nodup (catalog.table kind).nodup (other.table kind).nodup).2 ?_
  intro name
  rw [← OrderedMap.keys, ← OrderedMap.keys, h.keys, hother.keys]
  exact exists_congr fun definition => and_congr_left fun _ => hperm.mem_iff

/-- The same metrics are scraped. -/
lemma isScraped_eq : catalog.isScraped = other.isScraped := by
  funext metric
  rw [Bool.eq_iff_iff, isScraped_iff, isScraped_iff]
  exact not_congr (h.perm_keys hother hperm .recording).mem_iff

/-- Names that are texts are sorted alike. -/
lemma sortedNames_eq (htexts : ∀ definition ∈ definitions, ∃ name, definition.name = .text name)
    (kind : RuleKind) : sortedNames (catalog.table kind) = sortedNames (other.table kind) := by
  refine Json.sortBy_eq_of_perm (fun name hname => ?_) (fun _ _ _ _ => id)
    (h.perm_keys hother hperm kind)
  obtain ⟨definition, hdefinition, _, rfl⟩ := (h.keys kind name).1 hname
  exact htexts definition hdefinition

end RuleCatalog.Files

namespace Generator

/-- The metrics of a rule are metric names. -/
lemma isMetricName_of_mem_ruleMetrics {g : Generator} {name : Json} {metrics : List String}
    (h : g.ruleMetrics name = .ok metrics) {metric : String} (hmetric : metric ∈ metrics) :
    PromQL.IsMetricName metric := by
  obtain ⟨parts, hparts, rfl⟩ := (map_eq_ok_iff _).1 h
  obtain ⟨⟨_, _, e, hread, hmention⟩, _⟩ :=
    g.exists_mention hparts (List.mem_eraseDups.1 hmetric)
  obtain ⟨text, hparse⟩ := PromQL.exists_parse_of_expressionOf hread
  exact ⟨text, e, PromQL.Language.parse_eq_ok_iff.1 hparse, hmention⟩

variable [PromQL.Language] (g : Generator) {catalog other : RuleCatalog}
  {definitions others : List RuleDefinition}

/-- The metrics of a rule are the same, up to their order. -/
theorem agree_ruleMetrics (h : catalog.Files definitions) (hother : other.Files others)
    (hperm : definitions.Perm others) (name : Json) :
    ResultsAgree (fun _ _ => True) List.Perm ((g.withCatalog catalog).ruleMetrics name)
      ((g.withCatalog other).ruleMetrics name) := by
  have hscraped := h.isScraped_eq hother hperm
  have hsame : (g.withCatalog other).definitionMetrics =
      (g.withCatalog catalog).definitionMetrics := by
    funext definition
    rw [definitionMetrics, definitionMetrics, withCatalog, withCatalog, hscraped]
  have hdistinct (metrics others : List (List String)) (hperm : metrics.Perm others) :
      metrics.flatten.eraseDups.Perm others.flatten.eraseDups := by
    refine (List.perm_ext_iff_of_nodup (PromQL.nodup_eraseDups _) (PromQL.nodup_eraseDups _)).2 ?_
    intro metric
    rw [List.mem_eraseDups, List.mem_eraseDups]
    exact hperm.flatten.mem_iff
  rw [ruleMetrics, ruleMetrics, hsame]
  exact (ResultsAgree.mapM_perm (h.perm_getD hother hperm .recording name)).map hdistinct

end Generator

end RuleFixtures
