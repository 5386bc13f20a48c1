import Mathlib.Data.List.Sort
import Mathlib.Data.String.Basic
import RuleFixtures.Proofs.Labels.Reader

/-!
The key of a series identifies its labels.

An empty name counts as none, and the order in which labels were given does not matter.

* `Labels.Same` holds of maps with the same labels, `Labels.WellNamed` of labels whose names are
  written as names are.
* `Labels.read?_keyText`: the labels are read back from a key.
* `Labels.key_faithful`: the reader finds the labels of every key, and two series have one key
  exactly if they have the same labels.
-/

namespace RuleFixtures

namespace Labels

/-! ### The same labels -/

/-- The same name and the same other labels. -/
def Same (l₁ l₂ : TextLabels) : Prop :=
  seriesName l₁ = seriesName l₂ ∧ ∀ name, name ≠ "__name__" → l₁.get? name = l₂.get? name

/-- The name of the series is empty or that of a metric, and the other labels are named as labels
are. -/
def WellNamed (labels : TextLabels) : Prop :=
  (seriesName labels = "" ∨ SeriesKey.isMetricName (seriesName labels)) ∧
    ∀ pair ∈ seriesPairs labels, SeriesKey.isLabelName pair.1

instance : DecidablePred WellNamed := fun _ => inferInstanceAs (Decidable (_ ∧ _))

lemma mem_seriesPairs (labels : TextLabels) (name value : String) :
    (name, value) ∈ seriesPairs labels ↔ name ≠ "__name__" ∧ labels.get? name = some value := by
  rw [seriesPairs, List.mem_filter, OrderedMap.get?_eq_some_iff]
  simp [and_comm]

lemma nodup_keys_seriesPairs (labels : TextLabels) :
    ((seriesPairs labels).map Prod.fst).Nodup :=
  labels.nodup.sublist (List.filter_sublist.map Prod.fst)

/-- The other labels are the same exactly if they are listed the same up to their order. -/
lemma same_iff_perm (l₁ l₂ : TextLabels) :
    Same l₁ l₂ ↔ seriesName l₁ = seriesName l₂ ∧ (seriesPairs l₁).Perm (seriesPairs l₂) := by
  have hnodup (labels : TextLabels) : (seriesPairs labels).Nodup :=
    (nodup_keys_seriesPairs labels).of_map
  rw [Same, List.perm_ext_iff_of_nodup (hnodup l₁) (hnodup l₂)]
  refine and_congr_right fun _ => ⟨fun h pair => ?_, fun h name hname => ?_⟩
  · obtain ⟨name, value⟩ := pair
    rw [mem_seriesPairs, mem_seriesPairs]
    exact and_congr_right fun hname => by rw [h name hname]
  · refine Option.ext fun value => ?_
    have hpair := h (name, value)
    rw [mem_seriesPairs, mem_seriesPairs] at hpair
    simpa [hname] using hpair

/-! ### Keys of the same labels -/

/-- The order in which labels were given does not show in the key. -/
lemma sortedPairs_eq_of_perm {l₁ l₂ : TextLabels} (h : (seriesPairs l₁).Perm (seriesPairs l₂)) :
    sortedPairs l₁ = sortedPairs l₂ := by
  have hsorted (labels : TextLabels) : (sortedPairs labels).Pairwise (· ≤ ·) :=
    List.pairwise_mergeSort' (· ≤ ·) _
  have hperm : (sortedPairs l₁).Perm (sortedPairs l₂) :=
    ((List.mergeSort_perm _ _).trans (h.map writePair)).trans (List.mergeSort_perm _ _).symm
  exact hperm.eq_of_pairwise (fun _ _ _ _ => le_antisymm) (hsorted l₁) (hsorted l₂)

/-- The sorted texts are those of the labels in some order. -/
lemma exists_perm_sortedPairs (labels : TextLabels) :
    ∃ pairs : List (String × String), pairs.Perm (seriesPairs labels) ∧
      sortedPairs labels = pairs.map writePair := by
  refine ⟨(seriesPairs labels).mergeSort fun a b => decide (writePair a ≤ writePair b),
    List.mergeSort_perm _ _, (List.map_mergeSort ?_).symm⟩
  intro a _ b _
  rfl

/-! ### Reading a key -/

lemma seriesName_entriesOf {name : String} {pairs : List (String × String)}
    (hpairs : ∀ pair ∈ pairs, pair.1 ≠ "__name__")
    (h : ((SeriesKey.entriesOf name pairs).map Prod.fst).Nodup) :
    seriesName ⟨SeriesKey.entriesOf name pairs, h⟩ = name := by
  by_cases hname : name = ""
  · have hnone : lookupEntry "__name__" pairs = none := by
      rw [lookupEntry_eq_none_iff, List.mem_map]
      rintro ⟨pair, hpair, heq⟩
      exact hpairs pair hpair heq
    simp [seriesName, OrderedMap.get?, SeriesKey.entriesOf, hname, hnone]
  · simp [seriesName, OrderedMap.get?, SeriesKey.entriesOf, hname, lookupEntry]

lemma seriesPairs_entriesOf {name : String} {pairs : List (String × String)}
    (hpairs : ∀ pair ∈ pairs, pair.1 ≠ "__name__")
    (h : ((SeriesKey.entriesOf name pairs).map Prod.fst).Nodup) :
    seriesPairs ⟨SeriesKey.entriesOf name pairs, h⟩ = pairs := by
  have hkeep : (pairs.filter fun entry => entry.1 ≠ "__name__") = pairs :=
    List.filter_eq_self.2 fun pair hpair => by simpa using hpairs pair hpair
  by_cases hname : name = ""
  · simpa [seriesPairs, SeriesKey.entriesOf, hname] using hkeep
  · simpa [seriesPairs, SeriesKey.entriesOf, hname] using hkeep

/-- The labels are read back from the key. -/
theorem read?_keyText {labels : TextLabels} (h : WellNamed labels) :
    ∃ read, SeriesKey.read? (keyText (seriesName labels) (sortedPairs labels)) = some read ∧
      Same read labels := by
  obtain ⟨pairs, hperm, hsorted⟩ := exists_perm_sortedPairs labels
  have hnames : ∀ pair ∈ pairs, SeriesKey.isLabelName pair.1 := fun pair hpair =>
    h.2 pair (hperm.subset hpair)
  have hread := SeriesKey.readEntries?_keyText h.1 hnames
  have hother : ∀ pair ∈ pairs, pair.1 ≠ "__name__" := fun pair hpair =>
    ((mem_seriesPairs labels pair.1 pair.2).1 (hperm.subset hpair)).1
  have hkeys : (pairs.map Prod.fst).Nodup :=
    (hperm.map Prod.fst).nodup_iff.2 (nodup_keys_seriesPairs labels)
  have hnodup : ((SeriesKey.entriesOf (seriesName labels) pairs).map Prod.fst).Nodup := by
    unfold SeriesKey.entriesOf
    split
    · exact hkeys
    · refine List.nodup_cons.2 ⟨?_, hkeys⟩
      rw [List.mem_map]
      rintro ⟨pair, hpair, heq⟩
      exact hother pair hpair heq
  refine ⟨⟨_, hnodup⟩, ?_, (same_iff_perm _ _).2 ⟨seriesName_entriesOf hother hnodup, ?_⟩⟩
  · simp [SeriesKey.read?, hsorted, hread, hnodup]
  · rw [seriesPairs_entriesOf hother hnodup]
    exact hperm

/-! ### Identity -/

/-- Every map of well-named labels has a key from which it is read back, so keys tell labels
apart; the same labels have one key, whatever their order. -/
theorem key_faithful :
    (∀ labels : TextLabels, WellNamed labels →
      ∃ text, (ofTexts labels).key = .ok (.text text) ∧
        ∃ read, SeriesKey.read? text = some read ∧ Same read labels) ∧
    ∀ l₁ l₂ : TextLabels, WellNamed l₁ → WellNamed l₂ →
      ((ofTexts l₁).key = (ofTexts l₂).key ↔ Same l₁ l₂) := by
  refine ⟨fun labels h => ⟨_, key_ofTexts labels, read?_keyText h⟩, fun l₁ l₂ h₁ h₂ => ?_⟩
  rw [key_ofTexts, key_ofTexts]
  constructor
  · intro hkeys
    obtain ⟨read₁, hread₁, hsame₁⟩ := read?_keyText h₁
    obtain ⟨read₂, hread₂, hsame₂⟩ := read?_keyText h₂
    rw [Json.text.inj (Except.ok.inj hkeys), hread₂] at hread₁
    obtain rfl := Option.some.inj hread₁
    exact ⟨hsame₁.1.symm.trans hsame₂.1, fun name hname =>
      (hsame₁.2 name hname).symm.trans (hsame₂.2 name hname)⟩
  · intro hsame
    obtain ⟨hname, hperm⟩ := (same_iff_perm l₁ l₂).1 hsame
    rw [hname, sortedPairs_eq_of_perm hperm]

/-- One label whose value looks like the end of a label and the start of the next. -/
def imitation : TextLabels := ⟨[("__name__", "up"), ("a", "1\", b=\"2\\")], by decide⟩

/-- The two labels that it looks like, the name between them. -/
def imitated : TextLabels := ⟨[("b", "2\\"), ("__name__", "up"), ("a", "1")], by decide⟩

/-- The imitation is told from the labels it looks like. -/
theorem key_imitation_ne :
    WellNamed imitation ∧ WellNamed imitated ∧
      (∃ text, (ofTexts imitation).key = .ok (.text text) ∧
        ∃ read, SeriesKey.read? text = some read ∧ Same read imitation) ∧
      (ofTexts imitation).key ≠ (ofTexts imitated).key := by
  have h₁ : WellNamed imitation := by decide
  have h₂ : WellNamed imitated := by decide
  refine ⟨h₁, h₂, key_faithful.1 imitation h₁, fun hkeys => ?_⟩
  have hsame := (key_faithful.2 imitation imitated h₁ h₂).1 hkeys
  exact absurd (hsame.2 "b" (by decide)) (by decide)

end Labels

end RuleFixtures
