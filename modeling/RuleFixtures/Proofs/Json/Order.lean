import Mathlib.Tactic
import Mathlib.Data.List.Sort
import Mathlib.Data.String.Basic
import RuleFixtures.Json.Display
import RuleFixtures.Json.Order

/-!
Sorting by keys that are texts.

Texts always compare, so sorting by them does not fail.

* `pairwise_lt_mergeSort`: distinct texts are strictly ascending when sorted.
* `Json.exists_texts`: values that are texts are a list of texts.
* `Json.sortBy_of_text`: sorting by text keys is sorting by the texts.
* `Json.exists_texts_of_sortBy`: what is sorted by text keys has them in the order of the texts.
* `Json.sortBy_eq_of_perm`: what is sorted by distinct texts does not depend on the order before.
-/

namespace RuleFixtures

/-- Distinct texts are strictly ascending when sorted. -/
lemma pairwise_lt_mergeSort {texts : List String} (h : texts.Nodup) :
    (texts.mergeSort fun a b => decide (a ≤ b)).Pairwise (· < ·) := by
  have hle : (texts.mergeSort fun a b => decide (a ≤ b)).Pairwise (· ≤ ·) :=
    List.pairwise_mergeSort' (· ≤ ·) texts
  exact hle.imp₂ (fun _ _ hle hne => lt_of_le_of_ne hle hne) (List.nodup_mergeSort.2 h)

namespace Json

/-- Texts compare with each other. -/
lemma checkComparable_text (texts : List String) : checkComparable (texts.map .text) = .ok () := by
  induction texts with
  | nil => rfl
  | cons a rest ih =>
    cases rest with
    | nil => rfl
    | cons b rest => simpa [checkComparable, sortKey?, SortKey.alike] using ih

lemma keyLe_text (a b : String) : keyLe (.text a) (.text b) = decide (a ≤ b) := rfl

/-- Sorting by keys that are texts is sorting by the texts. -/
lemma sortBy_of_text {α : Type} {key : α → Json} {values : List α} (text : α → String)
    (htext : ∀ value ∈ values, key value = .text (text value)) :
    sortBy key values = .ok (values.mergeSort fun a b => decide (text a ≤ text b)) := by
  have hkeys : values.map key = (values.map text).map .text := by
    rw [List.map_map]
    exact List.map_congr_left htext
  have hsort : (values.mergeSort fun a b => keyLe (key a) (key b)) =
      values.mergeSort fun a b => decide (text a ≤ text b) := by
    have hle : ∀ a ∈ values, ∀ b ∈ values,
        keyLe (key a) (key b) = decide (text (id a) ≤ text (id b)) := by
      intro a ha b hb
      rw [htext a ha, htext b hb, keyLe_text, id, id]
    simpa using List.map_mergeSort (s := fun a b => decide (text a ≤ text b)) (f := id) hle
  rw [sortBy, hkeys, checkComparable_text, ← hsort]
  rfl

/-- Sorting texts as values. -/
lemma sortBy_text (texts : List String) :
    sortBy id (texts.map .text) = .ok ((texts.mergeSort fun a b => decide (a ≤ b)).map .text) := by
  have htext : ∀ value ∈ texts.map Json.text, id value = Json.text value.display := by
    intro value hvalue
    obtain ⟨text, _, rfl⟩ := List.mem_map.1 hvalue
    rfl
  rw [sortBy_of_text display htext]
  refine congrArg Except.ok (List.map_mergeSort ?_).symm
  intro a _ b _
  rfl

/-- A value that is a text is known by how it is displayed. -/
lemma eq_text_display {value : Json} (h : ∃ text, value = .text text) :
    value = .text value.display := by
  obtain ⟨text, rfl⟩ := h
  rfl

/-- Values that are texts are a list of texts. -/
lemma exists_texts {values : List Json} (h : ∀ value ∈ values, ∃ text, value = .text text) :
    ∃ texts : List String, values = texts.map .text := by
  refine ⟨values.map display, ?_⟩
  rw [List.map_map]
  exact (List.map_id _).symm.trans
    (List.map_congr_left fun value hvalue => eq_text_display (h value hvalue))

/-- What is sorted by texts is in their order. -/
lemma pairwise_mergeSort_text {α : Type} (text : α → String) (values : List α) :
    (values.mergeSort fun a b => decide (text a ≤ text b)).Pairwise fun a b => text a ≤ text b := by
  refine (List.pairwise_mergeSort (fun _ _ _ hab hbc => ?_) (fun a b => ?_) values).imp
    of_decide_eq_true
  · exact decide_eq_true (le_trans (of_decide_eq_true hab) (of_decide_eq_true hbc))
  · simpa using le_total _ _

/-- What is sorted by keys that are texts has its keys in the order of the texts. -/
lemma exists_texts_of_sortBy {α : Type} {key : α → Json} {values sorted : List α}
    (htexts : ∀ value ∈ values, ∃ text, key value = .text text)
    (h : sortBy key values = .ok sorted) :
    ∃ texts : List String, sorted.map key = texts.map .text ∧ texts.Pairwise (· ≤ ·) := by
  have htext : ∀ value ∈ values, key value = .text (key value).display := fun value hvalue =>
    eq_text_display (htexts value hvalue)
  have hsorted := sortBy_of_text (fun value => (key value).display) htext
  rw [h, Except.ok.injEq] at hsorted
  refine ⟨sorted.map fun value => (key value).display, ?_, ?_⟩
  · rw [List.map_map]
    refine List.map_congr_left fun value hvalue => htext value ?_
    rw [hsorted] at hvalue
    exact List.mem_mergeSort.1 hvalue
  · rw [List.pairwise_map, hsorted]
    exact pairwise_mergeSort_text (fun value => (key value).display) values

/-- Sorting by keys that are distinct texts does not depend on the order before. -/
lemma sortBy_eq_of_perm {α : Type} {key : α → Json} {values others : List α}
    (htexts : ∀ value ∈ values, ∃ text, key value = .text text)
    (hkeys : ∀ a ∈ values, ∀ b ∈ values, key a = key b → a = b) (h : values.Perm others) :
    sortBy key values = sortBy key others := by
  have htext : ∀ value ∈ values, key value = .text (key value).display := fun value hvalue =>
    eq_text_display (htexts value hvalue)
  have hothers : ∀ value ∈ others, key value = .text (key value).display := fun value hvalue =>
    htext value (h.symm.subset hvalue)
  rw [sortBy_of_text (fun value => (key value).display) htext,
    sortBy_of_text (fun value => (key value).display) hothers]
  refine congrArg Except.ok (List.Perm.eq_of_pairwise (fun a b ha hb hab hba => ?_)
    (pairwise_mergeSort_text _ values) (pairwise_mergeSort_text _ others)
    (((List.mergeSort_perm _ _).trans h).trans (List.mergeSort_perm _ _).symm))
  have ha := List.mem_mergeSort.1 ha
  have hb := h.symm.subset (List.mem_mergeSort.1 hb)
  exact hkeys a ha b hb (by rw [htext a ha, htext b hb, le_antisymm hab hba])

/-- Sorting changes the order only. -/
lemma perm_of_sortBy {α : Type} {key : α → Json} {values sorted : List α}
    (h : sortBy key values = .ok sorted) : sorted.Perm values := by
  unfold sortBy at h
  cases hcheck : checkComparable (values.map key) with
  | error fault =>
    rw [hcheck] at h
    cases h
  | ok _ =>
    rw [hcheck] at h
    cases h
    exact List.mergeSort_perm _ _

end Json

end RuleFixtures
