import RuleFixtures.Proofs.Json.Order
import RuleFixtures.Proofs.PromQL.Selectors

/-!
What a set of selectors holds after any additions.

* `Addition` is one addition to a set, `DependencySet.ofAdditions` the set after several of them.
* `Addition.names` and `Addition.textsUnder` read off the additions what was added, in their order.
* `DependencySet.Holds` describes a set by the additions to it. `DependencySet.Holds.append_named`
  and `DependencySet.Holds.append_unnamed` are its steps; `DependencySet.holds_ofAdditions` follows
  for every sequence.
* `DependencySet.Holds.applyTo_eq`: what was added once may be added again without any change.
* `DependencySet.additions_hold` puts this together with what an addition leaves alone.
-/

namespace RuleFixtures.PromQL

/-- An addition to a set of selectors. -/
inductive Addition where
  | named (name text : String)
  | unnamed (text : String)
  deriving DecidableEq

namespace Addition

/-- Makes the addition. -/
def applyTo (set : DependencySet) : Addition → DependencySet
  | .named name text => set.add name text
  | .unnamed text => set.addUnnamed text

/-- The name under which a text is added. -/
def name? : Addition → Option String
  | .named name _ => some name
  | .unnamed _ => none

/-- The text that is added. -/
def text : Addition → String
  | .named _ text => text
  | .unnamed text => text

/-- The names that were added, with repetitions. -/
def names (additions : List Addition) : List String := additions.filterMap name?

/-- The texts that were added under a name, or without a name, with repetitions. -/
def textsUnder (name : Option String) (additions : List Addition) : List String :=
  (additions.filter fun addition => addition.name? = name).map text

lemma names_append (additions : List Addition) (addition : Addition) :
    names (additions ++ [addition]) = names additions ++ addition.name?.toList := by
  cases addition <;> simp [names, name?]

/-- A text is added under its own name only. -/
lemma textsUnder_append_self (additions : List Addition) (addition : Addition)
    (name : Option String) (h : addition.name? = name) :
    textsUnder name (additions ++ [addition]) = textsUnder name additions ++ [addition.text] := by
  simp [textsUnder, h]

lemma textsUnder_append_of_ne (additions : List Addition) (addition : Addition)
    (name : Option String) (h : addition.name? ≠ name) :
    textsUnder name (additions ++ [addition]) = textsUnder name additions := by
  simp [textsUnder, h]

/-- There are texts under the names that were added, and under no others. -/
lemma textsUnder_eq_nil_iff (name : String) (additions : List Addition) :
    textsUnder (some name) additions = [] ↔ name ∉ names additions := by
  simp [textsUnder, names, List.filter_eq_nil_iff]

/-- An addition that was made shows in the names and in the texts. -/
lemma mem_names {addition : Addition} {additions : List Addition} (h : addition ∈ additions) :
    ∀ name ∈ addition.name?, name ∈ names additions := fun _ hname =>
  List.mem_filterMap.2 ⟨addition, h, hname⟩

lemma mem_textsUnder {addition : Addition} {additions : List Addition} (h : addition ∈ additions) :
    addition.text ∈ textsUnder addition.name? additions :=
  List.mem_map_of_mem (List.mem_filter.2 ⟨h, decide_eq_true rfl⟩)

end Addition

/-- A text that is in a list may be repeated behind it. -/
lemma eraseDups_append_of_mem {texts : List String} {text : String} (h : text ∈ texts) :
    (texts ++ [text]).eraseDups = texts.eraseDups := by
  rw [← addDistinct_eraseDups, addDistinct, if_pos (List.mem_eraseDups.2 h)]

namespace DependencySet

open Addition

/-- The set after additions to the empty one. -/
def ofAdditions (additions : List Addition) : DependencySet := additions.foldl applyTo empty

/-- The set holds what was added: the names in the order in which they first came, each with its
distinct texts in the order in which they first came under it, and the distinct texts without a
name. -/
structure Holds (set : DependencySet) (additions : List Addition) : Prop where
  keys : set.selectors.keys = (names additions).eraseDups
  texts : ∀ name ∈ names additions,
    set.selectors.get? name = some (textsUnder (some name) additions).eraseDups
  unnamed : set.unnamed = (textsUnder none additions).eraseDups

namespace Holds

variable {set : DependencySet} {additions : List Addition}

lemma nil : empty.Holds [] where
  keys := rfl
  texts _ hname := absurd hname List.not_mem_nil
  unnamed := rfl

/-- The texts of a name before an addition: none if it was not added yet. -/
lemma getD_get? (h : set.Holds additions) (name : String) :
    (set.selectors.get? name).getD [] = (textsUnder (some name) additions).eraseDups := by
  by_cases hname : name ∈ names additions
  · rw [h.texts name hname, Option.getD_some]
  · have hnone : set.selectors.get? name = none := by
      rwa [OrderedMap.get?_eq_none_iff, h.keys, List.mem_eraseDups]
    rw [hnone, (textsUnder_eq_nil_iff name additions).2 hname]
    rfl

/-- A step with a name. -/
theorem append_named (h : set.Holds additions) (name text : String) :
    (set.add name text).Holds (additions ++ [.named name text]) where
  keys := by
    rw [keys_add, h.keys, addDistinct_eraseDups, names_append]
    rfl
  texts other hother := by
    by_cases hsame : other = name
    · subst hsame
      rw [get?_add, if_pos rfl, grown, h.getD_get?, addDistinct_eraseDups,
        textsUnder_append_self additions (.named other text) (some other) rfl]
      rfl
    · have hne : (Addition.named name text).name? ≠ some other := fun heq =>
        hsame (Option.some.inj heq).symm
      have hknown : other ∈ names additions := by
        simpa [names_append, name?, hsame] using hother
      rw [get?_add, if_neg hsame, textsUnder_append_of_ne _ _ _ hne, h.texts other hknown]
  unnamed := by
    rw [textsUnder_append_of_ne additions (.named name text) none (Option.some_ne_none name)]
    exact h.unnamed

/-- A step without a name. -/
theorem append_unnamed (h : set.Holds additions) (text : String) :
    (set.addUnnamed text).Holds (additions ++ [.unnamed text]) where
  keys := by
    rw [names_append]
    exact h.keys.trans (by rw [name?, Option.toList_none, List.append_nil])
  texts other hother := by
    rw [names_append, name?, Option.toList_none, List.append_nil] at hother
    rw [textsUnder_append_of_ne additions (.unnamed text) (some other)
      (Option.some_ne_none other).symm]
    exact h.texts other hother
  unnamed := by
    rw [addUnnamed, h.unnamed, addDistinct_eraseDups,
      textsUnder_append_self additions (.unnamed text) none rfl]
    rfl

lemma append (h : set.Holds additions) (addition : Addition) :
    (addition.applyTo set).Holds (additions ++ [addition]) := by
  cases addition with
  | named name text => exact h.append_named name text
  | unnamed text => exact h.append_unnamed text

/-! ### What follows -/

lemma entries_eq (h : set.Holds additions) : set.selectors.entries =
    (names additions).eraseDups.map fun name =>
      (name, (textsUnder (some name) additions).eraseDups) := by
  rw [← h.keys]
  refine set.selectors.entries_eq_map fun name hname => h.texts name ?_
  rwa [h.keys, List.mem_eraseDups] at hname

/-- Every name has texts, and has none of them twice. -/
lemma forall_entries (h : set.Holds additions) :
    ∀ entry ∈ set.selectors.entries, entry.2 ≠ [] ∧ entry.2.Nodup := by
  intro entry hentry
  rw [h.entries_eq] at hentry
  obtain ⟨name, hname, rfl⟩ := List.mem_map.1 hentry
  refine ⟨?_, nodup_eraseDups _⟩
  have htexts : textsUnder (some name) additions ≠ [] := fun hnil =>
    (textsUnder_eq_nil_iff name additions).1 hnil (List.mem_eraseDups.1 hname)
  obtain ⟨text, htext⟩ := List.exists_mem_of_ne_nil _ htexts
  exact List.ne_nil_of_mem (List.mem_eraseDups.2 htext)

lemma contains_iff (h : set.Holds additions) (name : String) :
    set.contains name = true ↔ name ∈ names additions := by
  rw [contains, OrderedMap.contains_iff_mem_keys, h.keys, List.mem_eraseDups]

lemma mem_metricNames_iff (h : set.Holds additions) (name : String) :
    name ∈ set.metricNames ↔ name ∈ names additions := by
  rw [metricNames, sortTexts, List.mem_mergeSort, h.keys, List.mem_eraseDups]

lemma pairwise_metricNames (h : set.Holds additions) : set.metricNames.Pairwise (· < ·) :=
  pairwise_lt_mergeSort (h.keys ▸ nodup_eraseDups _)

lemma size_eq (h : set.Holds additions) : set.size = (names additions).toFinset.card := by
  have hsame : (names additions).toFinset = (names additions).eraseDups.toFinset := by
    ext name
    rw [List.mem_toFinset, List.mem_toFinset, List.mem_eraseDups]
  rw [hsame, List.toFinset_card_of_nodup (nodup_eraseDups _), ← h.keys, OrderedMap.keys,
    List.length_map]
  rfl

/-- The additions settle the set. -/
lemma unique {other : DependencySet} (h : set.Holds additions) (hother : other.Holds additions) :
    set = other := by
  obtain ⟨selectors, unnamed⟩ := set
  obtain ⟨others, rest⟩ := other
  have hentries : selectors = others :=
    OrderedMap.ext_entries (h.entries_eq.trans hother.entries_eq.symm)
  rw [hentries, show unnamed = rest from h.unnamed.trans hother.unnamed.symm]

/-- A text that was added may be added again. -/
lemma eraseDups_textsUnder_append {addition : Addition} (hmem : addition ∈ additions)
    (name : Option String) : (textsUnder name (additions ++ [addition])).eraseDups =
      (textsUnder name additions).eraseDups := by
  by_cases hsame : addition.name? = name
  · subst hsame
    rw [textsUnder_append_self _ _ _ rfl, eraseDups_append_of_mem (mem_textsUnder hmem)]
  · rw [textsUnder_append_of_ne _ _ _ hsame]

/-- A set that holds what was added also holds what is added again. -/
lemma repeated (h : set.Holds additions) {addition : Addition} (hmem : addition ∈ additions) :
    set.Holds (additions ++ [addition]) where
  keys := by
    rw [h.keys, names_append]
    cases hname : addition.name? with
    | none => rw [Option.toList_none, List.append_nil]
    | some name =>
      rw [Option.toList_some, eraseDups_append_of_mem (mem_names hmem name hname)]
  texts name hname := by
    have hknown : name ∈ names additions := by
      rw [names_append, List.mem_append, Option.mem_toList] at hname
      exact hname.elim id (mem_names hmem name)
    rw [h.texts name hknown, eraseDups_textsUnder_append hmem]
  unnamed := by
    rw [h.unnamed, eraseDups_textsUnder_append hmem]

/-- What was added once may be added again without any change. -/
theorem applyTo_eq (h : set.Holds additions) {addition : Addition} (hmem : addition ∈ additions) :
    addition.applyTo set = set :=
  (h.append addition).unique (h.repeated hmem)

end Holds

/-- After every sequence of additions the set holds what was added. -/
theorem holds_ofAdditions (additions : List Addition) :
    (ofAdditions additions).Holds additions := by
  induction additions using List.reverseRecOn with
  | nil => exact .nil
  | append_singleton additions addition ih =>
    rw [ofAdditions, List.foldl_append]
    exact ih.append addition

/-- Whatever was added, and in whatever order: the names stand in the order in which they first
came, each with a list of texts that is not empty, has no text twice and is in the order in which
they first came under it, and so do the texts without a name. The names are those that were added,
they are listed in ascending order, and their number is that of the distinct names. A further
addition leaves the other part and the other names alone, and one that was made before changes
nothing. -/
theorem additions_hold (additions : List Addition) :
    (ofAdditions additions).selectors.entries = (names additions).eraseDups.map (fun name =>
        (name, (textsUnder (some name) additions).eraseDups)) ∧
      (∀ entry ∈ (ofAdditions additions).selectors.entries, entry.2 ≠ [] ∧ entry.2.Nodup) ∧
      (ofAdditions additions).unnamed = (textsUnder none additions).eraseDups ∧
      (ofAdditions additions).unnamed.Nodup ∧
      (∀ name, (ofAdditions additions).contains name = true ↔ name ∈ names additions) ∧
      (ofAdditions additions).metricNames.Pairwise (· < ·) ∧
      (∀ name, name ∈ (ofAdditions additions).metricNames ↔ name ∈ names additions) ∧
      (ofAdditions additions).size = (names additions).toFinset.card ∧
      (∀ name text,
        ((ofAdditions additions).add name text).unnamed = (ofAdditions additions).unnamed ∧
        ∀ other, other ≠ name → ((ofAdditions additions).add name text).selectors.get? other =
          (ofAdditions additions).selectors.get? other) ∧
      (∀ text, ((ofAdditions additions).addUnnamed text).selectors =
        (ofAdditions additions).selectors) ∧
      ∀ addition ∈ additions, addition.applyTo (ofAdditions additions) = ofAdditions additions := by
  have h := holds_ofAdditions additions
  generalize ofAdditions additions = set at h ⊢
  refine ⟨h.entries_eq, h.forall_entries, h.unnamed, ?_, h.contains_iff, h.pairwise_metricNames,
    h.mem_metricNames_iff, h.size_eq, fun name text => ⟨rfl, fun other hne => ?_⟩, fun _ => rfl,
    fun _ => h.applyTo_eq⟩
  · rw [h.unnamed]
    exact nodup_eraseDups _
  · rw [get?_add, if_neg hne]

end DependencySet

end RuleFixtures.PromQL
