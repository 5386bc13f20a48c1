import Mathlib.Tactic
import RuleFixtures.Rules.Catalog

/-!
Filing rules under their names.

A catalog takes up one definition after the other, each behind those of its kind and name.

* `RuleCatalog.Files` says which definitions a catalog has.
* `RuleCatalog.Files.enter` is the step for one definition, `RuleCatalog.files_foldl` the run over
  several.
* `RuleCatalog.exists_ofGroups`: the catalog of some groups has the definitions of their rules.
* `RuleCatalog.isRecorded_iff` and `RuleCatalog.isScraped_iff`: what is recorded are the names of
  recording rules.
-/

namespace RuleFixtures

/-- A rule of a group as it is filed. -/
def Rule.definition (group : Json) (rule : Rule) : RuleDefinition :=
  ⟨rule.name, rule.query, rule.kind, rule.labels, group⟩

/-- The rules of groups as they are filed, in the order of loading. -/
def RuleGroup.definitions (groups : List RuleGroup) : List RuleDefinition :=
  groups.flatMap fun group => group.rules.map (Rule.definition group.name)

namespace RuleCatalog

/-! ### Names of recording rules -/

section Recorded

variable (catalog : RuleCatalog) (metric : String)

lemma isRecorded_iff :
    catalog.isRecorded metric = true ↔ .text metric ∈ catalog.recording.keys :=
  catalog.recording.contains_iff_mem_keys (.text metric)

lemma isScraped_iff :
    catalog.isScraped metric = true ↔ .text metric ∉ catalog.recording.keys := by
  rw [isScraped, Bool.not_eq_true', ← isRecorded_iff, Bool.not_eq_true]

end Recorded

/-! ### One definition -/

/-- The definitions in a table. -/
def count (table : RuleTable) : ℕ := (table.entries.map fun entry => entry.2.length).sum

/-- A definition is filed behind those of its name. -/
lemma get?_file (table : RuleTable) (definition : RuleDefinition) (name : Json) :
    ((file table definition).get? name).getD [] =
      (table.get? name).getD [] ++ if definition.name = name then [definition] else [] := by
  unfold file
  by_cases hname : definition.name = name
  · rw [← hname, OrderedMap.get?_alter_self, Option.getD_some, if_pos rfl]
  · rw [OrderedMap.get?_alter_of_ne _ (Ne.symm hname), if_neg hname, List.append_nil]

lemma mem_keys_file (table : RuleTable) (definition : RuleDefinition) (name : Json) :
    name ∈ (file table definition).keys ↔ name ∈ table.keys ∨ definition.name = name := by
  rw [file, OrderedMap.keys_alter]
  split
  · next hknown => exact (or_iff_left_of_imp fun hname => hname ▸ hknown).symm
  · rw [List.mem_append, List.mem_singleton, eq_comm]

lemma count_file (table : RuleTable) (definition : RuleDefinition) :
    count (file table definition) = count table + 1 := by
  have hentries (entries : List (Json × List RuleDefinition)) :
      ((alterEntry definition.name (fun known => known.getD [] ++ [definition]) entries).map
          fun entry => entry.2.length).sum =
        (entries.map fun entry => entry.2.length).sum + 1 := by
    induction entries with
    | nil => simp [alterEntry]
    | cons entry rest ih =>
      rw [alterEntry]
      split
      · simp; omega
      · rw [List.map_cons, List.map_cons, List.sum_cons, List.sum_cons, ih, add_assoc]
  exact hentries table.entries

/-- Files a definition in the table of its kind. -/
def enter (catalog : RuleCatalog) (definition : RuleDefinition) : RuleCatalog :=
  match definition.kind with
  | .alerting => { catalog with alerting := file catalog.alerting definition }
  | .recording => { catalog with recording := file catalog.recording definition }

lemma table_enter (catalog : RuleCatalog) (definition : RuleDefinition) (kind : RuleKind) :
    (catalog.enter definition).table kind =
      if definition.kind = kind then file (catalog.table kind) definition
      else catalog.table kind := by
  unfold enter
  cases definition.kind <;> cases kind <;> rfl

/-! ### All definitions -/

/-- The catalog has every definition under its kind and name, in their order, and no others. -/
structure Files (catalog : RuleCatalog) (definitions : List RuleDefinition) : Prop where
  found : ∀ kind name, ((catalog.table kind).get? name).getD [] =
    definitions.filter fun definition => definition.kind = kind ∧ definition.name = name
  keys : ∀ kind name, name ∈ (catalog.table kind).keys ↔
    ∃ definition ∈ definitions, definition.kind = kind ∧ definition.name = name
  total : count catalog.alerting + count catalog.recording = definitions.length

lemma files_empty : empty.Files [] where
  found kind name := by cases kind <;> rfl
  keys kind name := by cases kind <;> simp [empty, table, OrderedMap.empty, OrderedMap.keys]
  total := rfl

namespace Files

variable {catalog : RuleCatalog} {definitions : List RuleDefinition}

/-- A further definition comes behind those that are there. -/
lemma enter (h : catalog.Files definitions) (definition : RuleDefinition) :
    (catalog.enter definition).Files (definitions ++ [definition]) where
  found kind name := by
    rw [List.filter_append, ← h.found, table_enter]
    by_cases hkind : definition.kind = kind
    · rw [if_pos hkind, get?_file]
      by_cases hname : definition.name = name <;> simp [hkind, hname]
    · simp [hkind]
  keys kind name := by
    simp only [List.mem_append, List.mem_singleton, or_and_right, exists_or, exists_eq_left]
    rw [← h.keys, table_enter]
    by_cases hkind : definition.kind = kind
    · rw [if_pos hkind, mem_keys_file]
      simp [hkind]
    · simp [hkind]
  total := by
    rw [List.length_append, ← h.total]
    unfold RuleCatalog.enter
    cases definition.kind with
    | alerting => simp only [count_file, List.length_singleton]; omega
    | recording => simp only [count_file, List.length_singleton]; omega

/-- The definitions of a name that is there. -/
lemma get?_eq_some_iff (h : catalog.Files definitions) (kind : RuleKind) (name : Json)
    (known : List RuleDefinition) :
    (catalog.table kind).get? name = some known ↔ known ≠ [] ∧
      known = definitions.filter fun definition =>
        definition.kind = kind ∧ definition.name = name := by
  have hkeys := h.keys kind name
  rw [← h.found]
  cases hget : (catalog.table kind).get? name with
  | none =>
    rw [Option.getD_none]
    exact ⟨nofun, fun hknown => absurd hknown.2 hknown.1⟩
  | some filed =>
    have hmem : name ∈ (catalog.table kind).keys := by
      rw [← OrderedMap.contains_iff_mem_keys, OrderedMap.contains, hget, Option.isSome_some]
    -- a name that is there was entered with a definition
    have hfound := h.found kind name
    rw [hget, Option.getD_some] at hfound
    obtain ⟨definition, hdefinition, hmatch⟩ := hkeys.1 hmem
    have hne : filed ≠ [] := by
      rw [hfound]
      exact List.ne_nil_of_mem (List.mem_filter.2 ⟨hdefinition, by simpa using hmatch⟩)
    rw [Option.getD_some, Option.some.injEq]
    constructor
    · rintro rfl
      exact ⟨hne, rfl⟩
    · rintro ⟨_, rfl⟩
      rfl

end Files

/-- A catalog takes up definitions in their order. -/
theorem files_foldl {catalog : RuleCatalog} {known : List RuleDefinition} (h : catalog.Files known)
    (definitions : List RuleDefinition) :
    (definitions.foldl enter catalog).Files (known ++ definitions) := by
  induction definitions generalizing catalog known with
  | nil => rwa [List.append_nil]
  | cons definition rest ih =>
    rw [List.foldl_cons, ← List.singleton_append, ← List.append_assoc]
    exact ih (h.enter definition)

/-! ### Groups -/

lemma add_eq (catalog : RuleCatalog) (group : Json) {rule : Rule}
    (hname : rule.name.checkHashable = .ok ()) :
    catalog.add group rule = .ok (catalog.enter (rule.definition group)) := by
  rw [add, hname, enter, Rule.definition]
  cases rule.kind <;> rfl

lemma addAll_eq (catalog : RuleCatalog) (group : Json) {rules : List Rule}
    (hnames : ∀ rule ∈ rules, rule.name.checkHashable = .ok ()) :
    addAll group catalog rules = .ok ((rules.map (Rule.definition group)).foldl enter catalog) := by
  induction rules generalizing catalog with
  | nil => rfl
  | cons rule rest ih =>
    rw [List.forall_mem_cons] at hnames
    rw [addAll, add_eq catalog group hnames.1]
    exact ih (catalog.enter (rule.definition group)) hnames.2

lemma addGroups_eq (catalog : RuleCatalog) {groups : List RuleGroup}
    (hnames : ∀ group ∈ groups, ∀ rule ∈ group.rules, rule.name.checkHashable = .ok ()) :
    addGroups catalog groups = .ok ((RuleGroup.definitions groups).foldl enter catalog) := by
  induction groups generalizing catalog with
  | nil => rfl
  | cons group rest ih =>
    rw [List.forall_mem_cons] at hnames
    rw [addGroups, addAll_eq catalog group.name hnames.1, RuleGroup.definitions, List.flatMap_cons,
      List.foldl_append]
    exact ih _ hnames.2

/-- Groups whose rules have texts as names make a catalog of their rules. -/
theorem exists_ofGroups {groups : List RuleGroup}
    (hnames : ∀ definition ∈ RuleGroup.definitions groups, ∃ name, definition.name = .text name) :
    ∃ catalog, ofGroups groups = .ok catalog ∧ catalog.Files (RuleGroup.definitions groups) := by
  refine ⟨_, addGroups_eq empty fun group hgroup rule hrule => ?_, files_foldl files_empty _⟩
  have hdefinition : rule.definition group.name ∈ RuleGroup.definitions groups :=
    List.mem_flatMap.2 ⟨group, hgroup, List.mem_map_of_mem hrule⟩
  obtain ⟨name, hname⟩ := hnames _ hdefinition
  rw [show rule.name = .text name from hname]
  rfl

end RuleCatalog

end RuleFixtures
