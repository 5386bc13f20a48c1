import Mathlib.Tactic
import RuleFixtures.Config.Selection
import RuleFixtures.Proofs.Json.Order
import RuleFixtures.Proofs.PromQL.Dependencies
import RuleFixtures.Rules.Report

/-!
The rules of a table that flags select.

Flags give names with commas between them. A name that is given picks the rule of this name, if
there is one; it is missing otherwise. Without any name all rules are picked.

* `RuleSelection.given` lists the names in flags, each where it is first given;
  `RuleSelection.names_ofFlags`: they are the names of the selection.
* `RuleSelection.Accounts` says what becomes of every name that is given.
* `RuleSelection.accounts_filter`: sorting the names of a table and picking those that are selected
  leaves out the missing names, and no others.
-/

namespace RuleFixtures

/-! ### Sorted names -/

lemma Json.eq_text_of_sortKey? {key : Json} {text : String}
    (h : key.sortKey? = some (.text text)) : key = .text text := by
  cases key with
  | text value =>
    cases h
    rfl
  | float x => cases x <;> cases h
  | _ => cases h

/-- A text compares with texts only. -/
lemma Json.forall_text_of_checkComparable {keys : List Json} (h : checkComparable keys = .ok ())
    {text : String} (hmem : .text text ∈ keys) : ∀ key ∈ keys, ∃ name, key = .text name := by
  induction keys generalizing text with
  | nil => simp
  | cons first rest ih =>
    cases rest with
    | nil =>
      rw [List.mem_singleton] at hmem
      simpa using ⟨text, hmem.symm⟩
    | cons second rest =>
      rw [checkComparable] at h
      split at h
      · next x y hx hy =>
        by_cases halike : x.alike y = true
        · rw [if_pos halike] at h
          -- the first two keys are texts if one of them is
          have hsecond : ∃ name, second = .text name := by
            obtain rfl | hmem := List.mem_cons.1 hmem
            · obtain rfl : x = .text text := by simpa [sortKey?] using hx.symm
              cases y with
              | text name => exact ⟨name, eq_text_of_sortKey? hy⟩
              | number rank units => simp [SortKey.alike] at halike
            · exact ih h hmem second List.mem_cons_self
          obtain ⟨name, rfl⟩ := hsecond
          obtain rfl : y = .text name := by simpa [sortKey?] using hy.symm
          refine List.forall_mem_cons.2 ⟨?_, ih h List.mem_cons_self⟩
          cases x with
          | text name => exact ⟨name, eq_text_of_sortKey? hx⟩
          | number rank units => simp [SortKey.alike] at halike
        · rw [if_neg halike] at h
          cases h
      · cases h

/-- The names of a table are all texts, if one is and they can be sorted. -/
lemma RuleCatalog.exists_texts_of_sortedNames {table : RuleTable} {sorted : List Json}
    (h : sortedNames table = .ok sorted) {text : String} (hmem : .text text ∈ table.keys) :
    ∃ texts : List String, table.keys = texts.map .text := by
  have hcheck : Json.checkComparable table.keys = .ok () := by
    rw [sortedNames, Json.sortBy, List.map_id] at h
    cases hcheck : Json.checkComparable table.keys with
    | ok _ => rfl
    | error fault =>
      rw [hcheck] at h
      cases h
  exact Json.exists_texts (Json.forall_text_of_checkComparable hcheck hmem)

/-- The names of a table that are texts are strictly ascending when sorted. -/
lemma RuleCatalog.pairwise_lt_of_sortedNames {table : RuleTable} {sorted : List Json}
    (h : sortedNames table = .ok sorted) {keep : Json → Bool} {names : List String}
    (hnames : sorted.filter keep = names.map .text) : names.Pairwise (· < ·) := by
  cases names with
  | nil => exact .nil
  | cons first rest =>
    have hfirst : .text first ∈ table.keys := by
      refine (Json.perm_of_sortBy h).subset (List.mem_of_mem_filter (p := keep) ?_)
      rw [hnames]
      exact List.mem_cons_self
    obtain ⟨texts, htexts⟩ := exists_texts_of_sortedNames h hfirst
    have hnodup : texts.Nodup := by
      have hkeys := table.nodup
      change table.keys.Nodup at hkeys
      rw [htexts] at hkeys
      exact hkeys.of_map
    rw [sortedNames, htexts, Json.sortBy_text] at h
    cases h
    rw [List.filter_map] at hnames
    have hsub : (first :: rest).Sublist (texts.mergeSort fun a b => decide (a ≤ b)) := by
      rw [← List.map_injective_iff.2 (fun _ _ => Json.text.inj) hnames]
      exact List.filter_sublist
    exact (pairwise_lt_mergeSort hnodup).sublist hsub

/-! ### Reports on a table -/

namespace RuleReport

variable [PromQL.Language] {σ : Type} [Log.Journal σ] {catalog : RuleCatalog} {table : RuleTable}
  {s : σ}

lemma name_ofDefinitions {name : Json} {definitions : List RuleDefinition} {report : RuleReport}
    (h : (ofDefinitions catalog name definitions s).1 = .ok report) : report.name = name := by
  suffices hall : ∀ (start : RuleReport) (s : σ),
      (extendAll catalog start definitions s).1 = .ok report → report.name = start.name from
    hall _ s h
  clear h
  induction definitions with
  | nil =>
    intro start s h
    cases h
    rfl
  | cons definition rest ih =>
    intro start s h
    obtain ⟨deps, _, h⟩ := Act.fst_bind_eq_ok_iff.1 h
    have hname := ih _ _ h
    exact hname

lemma names_ofNames {names : List Json} {reports : List RuleReport}
    (h : (ofNames catalog table names s).1 = .ok reports) : reports.map name = names := by
  induction names generalizing s reports with
  | nil =>
    cases h
    rfl
  | cons name rest ih =>
    obtain ⟨report, hreport, h⟩ := Act.fst_bind_eq_ok_iff.1 h
    obtain ⟨others, hothers, h⟩ := Act.fst_bind_eq_ok_iff.1 h
    cases h
    rw [List.map_cons, name_ofDefinitions hreport, ih hothers]

/-- The reports on a table are on its selected rules, in the order of the names. -/
lemma names_ofTable {select : Json → Bool} {reports : List RuleReport}
    (h : (ofTable catalog table select s).1 = .ok reports) :
    ∃ sorted, RuleCatalog.sortedNames table = .ok sorted ∧
      reports.map name = sorted.filter select := by
  obtain ⟨names, hnames, h⟩ := Act.fst_bind_eq_ok_iff.1 h
  refine ⟨names, ?_, names_ofNames h⟩
  cases hsorted : RuleCatalog.sortedNames table with
  | error fault =>
    rw [hsorted] at hnames
    cases hnames
  | ok sorted =>
    rw [hsorted] at hnames
    cases hnames
    rfl

end RuleReport

namespace RuleSelection

/-! ### The names in flags -/

/-- The names in flags that are not blank, each where it is first given. -/
def given (values : List String) : List String :=
  ((values.flatMap pieces).filter (· ≠ "")).eraseDups

lemma foldl_addName (names pieces : List String) :
    pieces.foldl addName names = (pieces.filter (· ≠ "")).foldl PromQL.addDistinct names := by
  induction pieces generalizing names with
  | nil => rfl
  | cons piece rest ih =>
    rw [List.foldl_cons, ih, List.filter_cons]
    by_cases h : piece = ""
    · simp [h, addName]
    · simp [h, addName, PromQL.addDistinct]

/-- The selection of flags has the names that are given. -/
lemma names_ofFlags (values : List String) : (ofFlags values).names = given values := by
  rw [ofFlags, foldl_addName]
  exact PromQL.foldl_addDistinct [] _

/-! ### Accounting for names -/

/-- What becomes of the names in flags, by the names of a table: of the rules that are reported and
of the names that are warned about. -/
structure Accounts (values : List String) (table : RuleTable) (reported : List Json)
    (warned : List String) : Prop where
  distinct : (given values).Nodup
  /-- Without a name all rules are reported. -/
  all : given values = [] → reported.Perm table.keys ∧ warned = []
  /-- The names that are given are those of the rules reported and those warned about. -/
  split : given values ≠ [] → ∃ names : List String, reported = names.map .text ∧
    (names ++ warned).Perm (given values)
  mem_reported : given values ≠ [] → ∀ name,
    .text name ∈ reported ↔ name ∈ given values ∧ .text name ∈ table.keys
  /-- Missing names are warned about in the order in which they are given. -/
  warned_eq : warned = (given values).filter fun name => .text name ∉ table.keys
  ascending : ∀ names : List String, reported = names.map .text → names.Pairwise (· < ·)

/-- Where names are given, these are the names of rules that are selected. -/
lemma selects_iff {values : List String} (h : given values ≠ []) (key : Json) :
    (ofFlags values).selects key = true ↔ ∃ name ∈ given values, key = .text name := by
  have hsome : (ofFlags values).selectsAll = false := by
    rw [selectsAll, names_ofFlags]
    exact List.isEmpty_eq_false_iff.2 h
  simp [selects, hsome, names_ofFlags]

/-- Picking the selected names out of the sorted names of a table accounts for all that are
given. -/
lemma accounts_filter {table : RuleTable} {sorted : List Json}
    (h : RuleCatalog.sortedNames table = .ok sorted) (values : List String) :
    Accounts values table (sorted.filter (ofFlags values).selects)
      ((ofFlags values).missingFrom table.keys) := by
  have hperm := Json.perm_of_sortBy h
  have hdistinct : (given values).Nodup := PromQL.nodup_eraseDups _
  have hwarned : (ofFlags values).missingFrom table.keys =
      (given values).filter fun name => .text name ∉ table.keys := by
    rw [missingFrom, names_ofFlags]
    exact List.filter_congr fun name _ => by simp
  -- a name is kept if it is given and has a rule
  have hmem (hgiven : given values ≠ []) (name : String) :
      .text name ∈ sorted.filter (ofFlags values).selects ↔
        name ∈ given values ∧ .text name ∈ table.keys := by
    rw [List.mem_filter, hperm.mem_iff, selects_iff hgiven, and_comm]
    simp
  refine ⟨hdistinct, fun hnone => ?_, fun hgiven => ?_, hmem, hwarned, fun names hnames =>
    RuleCatalog.pairwise_lt_of_sortedNames h hnames⟩
  -- without any names all rules are kept, and none is missed
  · have hall : sorted.filter (ofFlags values).selects = sorted := by
      refine List.filter_eq_self.2 fun key _ => ?_
      simp [selects, selectsAll, names_ofFlags, hnone]
    rw [hall, hwarned, hnone]
    exact ⟨hperm, rfl⟩
  -- with names, those that are kept and those that are missed make up all that are given
  · obtain ⟨names, hnames⟩ : ∃ names : List String,
        sorted.filter (ofFlags values).selects = names.map .text := by
      refine ⟨(sorted.filter (ofFlags values).selects).map Json.display, ?_⟩
      rw [List.map_map]
      refine (List.map_id _).symm.trans (List.map_congr_left fun key hkey => ?_)
      obtain ⟨name, _, rfl⟩ := (selects_iff hgiven key).1 (List.of_mem_filter hkey)
      rfl
    have hnodup : names.Nodup :=
      (RuleCatalog.pairwise_lt_of_sortedNames h hnames).imp fun hlt => hlt.ne
    have hname (name : String) : name ∈ names ↔ name ∈ given values ∧ .text name ∈ table.keys := by
      rw [← hmem hgiven, hnames]
      simp
    refine ⟨names, hnames, (List.perm_ext_iff_of_nodup ?_ hdistinct).2 fun name => ?_⟩
    · rw [hwarned, List.nodup_append']
      refine ⟨hnodup, hdistinct.filter _, fun name hfound hmissing => ?_⟩
      simpa [(hname name).1 hfound] using List.of_mem_filter hmissing
    · rw [List.mem_append, hname, hwarned, List.mem_filter]
      simp only [decide_not, Bool.not_eq_true', decide_eq_false_iff_not]
      tauto

end RuleSelection

end RuleFixtures
