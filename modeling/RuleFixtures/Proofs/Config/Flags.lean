import RuleFixtures.Proofs.Rules.Selected
import RuleFixtures.Proofs.Text.Split

/-!
How names are spread over flags.

A flag gives names with commas between them, and a flag may be repeated. What counts is the text of
the flags with commas between them, wherever this text is cut at commas.

* `RuleSelection.Gathers` says which names a selection takes from flags, in which order, and which
  rules it picks; `RuleSelection.gathers_ofFlags`: the selection of flags is such a selection.
* `RuleSelection.given_intercalate`: one flag with all the values gives the same names.
* `RuleSelection.ofFlags_regroup` is the statement for any two ways to cut one text.
-/

namespace RuleFixtures.RuleSelection

open Text (Trimmed isBlank splitAtChar trimList)

variable {values : List String}

/-! ### Mentions -/

/-- The pieces of flags that are not blank, with repetitions. -/
def mentioned (values : List String) : List String := (values.flatMap pieces).filter (· ≠ "")

lemma given_eq (values : List String) : given values = (mentioned values).eraseDups := rfl

/-- A text is mentioned if it is a piece without the blanks around it, and not empty. -/
lemma mem_mentioned_iff {name : String} :
    name ∈ mentioned values ↔ name ≠ "" ∧ ∃ value ∈ values,
      ∃ piece ∈ splitAtChar ',' value.toList, name.toList = trimList isBlank piece := by
  simp only [mentioned, pieces, List.mem_filter, List.mem_flatMap, List.mem_map,
    decide_eq_true_eq, and_comm (a := name ≠ "")]
  refine and_congr_left fun _ => exists_congr fun value => and_congr_right fun _ =>
    exists_congr fun piece => and_congr_right fun _ => ?_
  rw [← String.toList_inj, String.toList_ofList, eq_comm]

/-- A name that is mentioned has no commas and no blanks at its ends. -/
lemma plain_of_mem_mentioned {name : String} (h : name ∈ mentioned values) :
    name ≠ "" ∧ ',' ∉ name.toList ∧ Trimmed isBlank name.toList := by
  obtain ⟨hne, value, -, piece, hpiece, hname⟩ := mem_mentioned_iff.1 h
  rw [hname]
  exact ⟨hne, fun hcomma => Text.notMem_of_mem_splitAtChar hpiece (Text.trimList_subset _ _ hcomma),
    Text.trimmed_trimList _ _⟩

/-- Nothing is mentioned where all pieces are blank. -/
lemma mentioned_eq_nil_iff :
    mentioned values = [] ↔ ∀ value ∈ values, ∀ piece ∈ splitAtChar ',' value.toList,
      ∀ c ∈ piece, isBlank c = true := by
  rw [mentioned, List.filter_eq_nil_iff]
  simp only [List.forall_mem_flatMap, pieces, List.forall_mem_map, decide_eq_true_eq, not_not]
  refine forall₄_congr fun value _ piece _ => ?_
  rw [← String.toList_inj, String.toList_ofList, String.toList_empty, Text.trimList_eq_nil_iff]

/-! ### First mentions -/

/-- Texts without the later repetitions are in the order in which they first stand. -/
lemma pairwise_idxOf_eraseDups (texts : List String) :
    texts.eraseDups.Pairwise fun a b => texts.idxOf a < texts.idxOf b := by
  induction texts using List.reverseRecOn with
  | nil => exact .nil
  | append_singleton texts text ih =>
    have hkept : texts.eraseDups.Pairwise fun a b =>
        (texts ++ [text]).idxOf a < (texts ++ [text]).idxOf b := by
      refine ih.imp_of_mem fun ha hb hlt => ?_
      rwa [List.idxOf_append_of_mem (List.mem_eraseDups.1 ha),
        List.idxOf_append_of_mem (List.mem_eraseDups.1 hb)]
    rw [← PromQL.addDistinct_eraseDups, PromQL.addDistinct]
    by_cases h : text ∈ texts
    · rwa [if_pos (List.mem_eraseDups.2 h)]
    · rw [if_neg (mt List.mem_eraseDups.1 h)]
      refine List.pairwise_append.2 ⟨hkept, List.pairwise_singleton _ _, fun a ha b hb => ?_⟩
      rw [List.mem_singleton.1 hb, List.idxOf_append_of_notMem h, List.idxOf_append_of_mem
        (List.mem_eraseDups.1 ha)]
      exact Nat.lt_add_right _ (List.idxOf_lt_length_of_mem (List.mem_eraseDups.1 ha))

lemma eraseDups_of_nodup {texts : List String} (h : texts.Nodup) : texts.eraseDups = texts := by
  induction texts using List.reverseRecOn with
  | nil => rfl
  | append_singleton texts text ih =>
    obtain ⟨hnodup, -, hdisjoint⟩ := List.nodup_append'.1 h
    rw [← PromQL.addDistinct_eraseDups, ih hnodup, PromQL.addDistinct,
      if_neg fun hmem => hdisjoint hmem List.mem_cons_self]

/-! ### Flags that are joined -/

/-- A name without commas and blanks around it is its own piece. -/
lemma pieces_of_plain {name : String} (hcomma : ',' ∉ name.toList)
    (htrimmed : Trimmed isBlank name.toList) : pieces name = [name] := by
  rw [pieces, Text.splitAtChar_of_notMem hcomma, List.map_singleton,
    Text.trimList_of_trimmed htrimmed, String.ofList_toList]

lemma pieces_append_comma (first second : String) :
    pieces (first ++ "," ++ second) = pieces first ++ pieces second := by
  have hjoined : (first ++ "," ++ second).toList = first.toList ++ ',' :: second.toList := by simp
  rw [pieces, hjoined, Text.splitAtChar_append_cons, List.map_append]
  rfl

/-- The pieces of values are those of one value with commas between them. -/
lemma pieces_intercalate (h : values ≠ []) :
    pieces (String.intercalate "," values) = values.flatMap pieces := by
  induction values with
  | nil => exact absurd rfl h
  | cons value rest ih =>
    by_cases hrest : rest = []
    · rw [hrest, String.intercalate_singleton, List.flatMap_singleton]
    · rw [String.intercalate_cons_of_ne_nil hrest, pieces_append_comma, ih hrest,
        List.flatMap_cons]

/-- One flag with all the values gives the same names. -/
theorem given_intercalate (values : List String) :
    given [String.intercalate "," values] = given values := by
  by_cases h : values = []
  · rw [h]
    decide +kernel
  · rw [given, List.flatMap_singleton, pieces_intercalate h, given]

/-! ### Selections of flags -/

/-- What a selection has from flags: its names and the rules that it picks. -/
structure Gathers (values : List String) (selection : RuleSelection) : Prop where
  /-- The names are the pieces between commas, without the blanks around them and the empty
  ones. -/
  mem_names_iff : ∀ name, name ∈ selection.names ↔ name ≠ "" ∧ ∃ value ∈ values,
    ∃ piece ∈ splitAtChar ',' value.toList, name.toList = trimList isBlank piece
  plain : ∀ name ∈ selection.names,
    name ≠ "" ∧ ',' ∉ name.toList ∧ Trimmed isBlank name.toList
  distinct : selection.names.Nodup
  /-- The names stand in the order of their first mention. -/
  ordered : selection.names.Pairwise fun a b =>
    (mentioned values).idxOf a < (mentioned values).idxOf b
  /-- A rule is picked by its name, and by flags that are blank. -/
  selects_iff : ∀ key, selection.selects key = true ↔
    (∃ name ∈ selection.names, key = .text name) ∨
      ∀ value ∈ values, ∀ piece ∈ splitAtChar ',' value.toList, ∀ c ∈ piece, isBlank c = true
  /-- The names give the selection again, as flags of their own. -/
  again : ofFlags selection.names = selection

lemma ofFlags_eq (values : List String) : ofFlags values = ⟨given values⟩ :=
  congrArg RuleSelection.mk (names_ofFlags values)

/-- Names that are plain and distinct give themselves. -/
lemma given_of_plain {names : List String} (hdistinct : names.Nodup)
    (hplain : ∀ name ∈ names, name ≠ "" ∧ ',' ∉ name.toList ∧ Trimmed isBlank name.toList) :
    given names = names := by
  have hpieces : names.flatMap pieces = names := by
    calc names.flatMap pieces
        = names.flatMap fun name => [name] := by
          refine List.flatMap_congr fun name hname => ?_
          exact pieces_of_plain (hplain name hname).2.1 (hplain name hname).2.2
      _ = names := List.flatMap_singleton' names
  rw [given, hpieces, List.filter_eq_self.2 fun name hname => decide_eq_true (hplain name hname).1,
    eraseDups_of_nodup hdistinct]

lemma gathers_ofFlags (values : List String) : Gathers values (ofFlags values) := by
  have hmem (name : String) : name ∈ given values ↔ name ∈ mentioned values := List.mem_eraseDups
  have hdistinct : (given values).Nodup := PromQL.nodup_eraseDups _
  have hplain : ∀ name ∈ given values,
      name ≠ "" ∧ ',' ∉ name.toList ∧ Trimmed isBlank name.toList :=
    fun name hname => plain_of_mem_mentioned ((hmem name).1 hname)
  rw [ofFlags_eq]
  refine ⟨fun name => (hmem name).trans mem_mentioned_iff, hplain, hdistinct,
    pairwise_idxOf_eraseDups _, fun key => ?_, ?_⟩
  · rw [← mentioned_eq_nil_iff]
    by_cases hnone : mentioned values = []
    · simp [selects, selectsAll, given_eq, hnone]
    · have hsome : given values ≠ [] := by
        obtain ⟨name, hname⟩ := List.exists_mem_of_ne_nil _ hnone
        exact List.ne_nil_of_mem ((hmem name).2 hname)
      rw [← ofFlags_eq, selects_iff hsome, names_ofFlags, or_iff_left hnone]
  · rw [ofFlags_eq, given_of_plain hdistinct hplain]

/-- **Flags are one text.** The selection of flags gathers their names, and it is the selection of
every other list of values with the same text between commas, such as the one value that has it
all. -/
theorem ofFlags_regroup (values : List String) :
    Gathers values (ofFlags values) ∧
      ofFlags [String.intercalate "," values] = ofFlags values ∧
      ∀ others : List String,
        String.intercalate "," others = String.intercalate "," values →
        ofFlags others = ofFlags values := by
  refine ⟨gathers_ofFlags values, ?_, fun others h => ?_⟩
  · rw [ofFlags_eq, ofFlags_eq, given_intercalate]
  · rw [ofFlags_eq, ofFlags_eq, ← given_intercalate others, h, given_intercalate]

end RuleFixtures.RuleSelection
