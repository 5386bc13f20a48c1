import Mathlib.Tactic
import RuleFixtures.Proofs.Labels.Identity

/-!
The order of the labels in a key.

A key has its labels in the order of the texts `name="value"`. This is the order of the names but
for names one of which goes on behind another: there the equals sign of the shorter name is compared
with a character of the longer one.

* `Labels.Overtakes` holds of a label that comes in front of another one whose name its own goes on
  behind; `Labels.overtakes_iff` tells it by the first further character.
* `Labels.writePair_lt_or_overtakes`: the texts of two labels are ordered as their names, unless one
  overtakes the other.
* `Labels.names_in_key`: the names in a key are ascending just if no label overtakes another.
-/

namespace RuleFixtures

namespace Labels

/-! ### Names and texts -/

/-- A label whose name goes on behind that of another one, and whose text comes first all the same:
what its name goes on with comes before the equals sign and the value of the other label. -/
def Overtakes (label other : String × String) : Prop :=
  ∃ more, more ≠ "" ∧ label.1 = other.1 ++ more ∧
    writePair (more, label.2) < writePair ("", other.2)

lemma toList_writePair (name value : String) :
    (writePair (name, value)).toList =
      name.toList ++ '=' :: '"' :: (value.toList.flatMap escapeChar ++ ['"']) := by
  simp [writePair, escapeValue]

lemma writePair_append (start more value : String) :
    writePair (start ++ more, value) = start ++ writePair (more, value) := by
  simp only [writePair, String.append_assoc]

/-- An escaped value does not start with a quote. -/
lemma flatMap_escapeChar_ne_quote (value after : List Char) :
    value.flatMap escapeChar ≠ '"' :: after := by
  cases value with
  | nil => simp
  | cons c rest =>
    rw [List.flatMap_cons, escapeChar]
    split_ifs <;> simp [*]

/-- A quote in an escaped value stands behind a backslash, so behind no equals sign. -/
lemma flatMap_escapeChar_ne (value before after : List Char) :
    value.flatMap escapeChar ≠ before ++ '=' :: '"' :: after := by
  induction value generalizing before with
  | nil => simp
  | cons c rest ih =>
    -- the escape of a character is passed over, or it ends the part in front
    have hpair (second : Char) (hsecond : second ≠ '=') :
        ['\\', second] ++ rest.flatMap escapeChar ≠ before ++ '=' :: '"' :: after := by
      rcases before with _ | ⟨first, _ | ⟨next, before⟩⟩
      · simp
      · simp [hsecond]
      · simpa using fun _ _ => ih before
    rw [List.flatMap_cons, escapeChar]
    split_ifs
    · exact hpair _ (by decide)
    · exact hpair _ (by decide)
    · exact hpair _ (by decide)
    · cases before with
      | nil => simpa using fun _ => flatMap_escapeChar_ne_quote rest after
      | cons first before => simpa using fun _ => ih before

/-- What a name goes on with is not written as an empty name is. -/
lemma writePair_ne {more : String} (hmore : more ≠ "") (value other : String) :
    writePair (more, value) ≠ writePair ("", other) := by
  intro h
  have hlist := congrArg String.toList h
  rw [toList_writePair, toList_writePair] at hlist
  rcases hcons : more.toList with _ | ⟨c, _ | ⟨d, rest⟩⟩
  · exact hmore (String.toList_eq_nil_iff.1 hcons)
  · rw [hcons] at hlist
    simp at hlist
  · rw [hcons] at hlist
    have hrest : rest ++ '=' :: '"' :: value.toList.flatMap escapeChar ++ ['"'] =
        other.toList.flatMap escapeChar ++ ['"'] := by
      simpa using (List.cons.inj (List.cons.inj hlist).2).2
    have hvalue := List.append_cancel_right hrest
    exact flatMap_escapeChar_ne _ _ _ hvalue.symm

/-- A text comes before another one whatever stands behind them, unless the other goes on behind
it. -/
lemma lt_append_or_prefix {a b : List Char} (h : a < b) :
    (∃ more, more ≠ [] ∧ b = a ++ more) ∨ ∀ s t, a ++ s < b ++ t := by
  induction a generalizing b with
  | nil => exact .inl ⟨b, List.ne_nil_of_length_pos (by cases b <;> simp_all), rfl⟩
  | cons x a ih =>
    cases b with
    | nil => simp at h
    | cons y b =>
      obtain hlt | ⟨rfl, hrest⟩ := List.cons_lt_cons_iff.1 h
      · exact .inr fun s t => List.cons_lt_cons_iff.2 (.inl hlt)
      · obtain ⟨more, hmore, rfl⟩ | hall := ih hrest
        · exact .inl ⟨more, hmore, rfl⟩
        · exact .inr fun s t => List.cons_lt_cons_iff.2 (.inr ⟨rfl, hall s t⟩)

lemma append_lt_append_left (start : String) {a b : String} (h : a < b) :
    start ++ a < start ++ b := by
  rw [String.lt_iff_toList_lt] at h ⊢
  rw [String.toList_append, String.toList_append]
  exact List.append_left_lt h

/-- The text of a label comes first if its name does, unless the other label overtakes it. -/
lemma writePair_lt_or_overtakes {label other : String × String} (h : label.1 < other.1) :
    writePair label < writePair other ∨ Overtakes other label := by
  obtain ⟨name, value⟩ := label
  obtain ⟨longer, otherValue⟩ := other
  obtain ⟨more, hmore, hname⟩ | hall := lt_append_or_prefix (String.lt_iff_toList_lt.1 h)
  · have hmore : String.ofList more ≠ "" := by simpa using hmore
    obtain rfl : longer = name ++ String.ofList more := by
      rw [← String.toList_inj, String.toList_append, String.toList_ofList]
      exact hname
    obtain hlt | heq | hgt :=
      lt_trichotomy (writePair (String.ofList more, otherValue)) (writePair ("", value))
    · exact .inr ⟨_, hmore, rfl, hlt⟩
    · exact absurd heq (writePair_ne hmore _ _)
    · have hlt := append_lt_append_left name hgt
      rw [← writePair_append, ← writePair_append, String.append_empty] at hlt
      exact .inl hlt
  · refine .inl (String.lt_iff_toList_lt.2 ?_)
    rw [toList_writePair, toList_writePair]
    exact hall _ _

/-- A label that overtakes another one has the later name and the earlier text. -/
lemma Overtakes.lt {label other : String × String} (h : Overtakes label other) :
    other.1 < label.1 ∧ writePair label < writePair other := by
  obtain ⟨name, value⟩ := label
  obtain ⟨shorter, otherValue⟩ := other
  obtain ⟨more, hmore, hname, hlt⟩ := h
  dsimp only at hname
  subst hname
  have hempty : "" < more := by
    obtain ⟨c, rest, hcons⟩ := List.exists_cons_of_ne_nil (String.toList_eq_nil_iff.not.2 hmore)
    rw [String.lt_iff_toList_lt, hcons]
    exact List.nil_lt_cons c rest
  have hnames := append_lt_append_left shorter hempty
  have htexts := append_lt_append_left shorter hlt
  rw [String.append_empty] at hnames
  rw [← writePair_append, ← writePair_append, String.append_empty] at htexts
  exact ⟨hnames, htexts⟩

/-- The first character that a name goes on with decides, if the name has no equals sign. -/
lemma overtakes_iff {label : String × String} (h : '=' ∉ label.1.toList)
    (other : String × String) : Overtakes label other ↔
      ∃ c rest, label.1.toList = other.1.toList ++ c :: rest ∧ c < '=' := by
  obtain ⟨name, value⟩ := label
  obtain ⟨shorter, otherValue⟩ := other
  constructor
  · rintro ⟨more, hmore, hname, hlt⟩
    dsimp only at hname h
    subst hname
    obtain ⟨c, rest, hcons⟩ := List.exists_cons_of_ne_nil (String.toList_eq_nil_iff.not.2 hmore)
    rw [String.lt_iff_toList_lt, toList_writePair, toList_writePair, hcons] at hlt
    obtain hlt | ⟨heq, -⟩ := List.cons_lt_cons_iff.1 hlt
    · exact ⟨c, rest, by rw [String.toList_append, hcons], hlt⟩
    · simp [hcons, heq] at h
  · rintro ⟨c, rest, hname, hlt⟩
    refine ⟨String.ofList (c :: rest), by simp, ?_, ?_⟩
    · rw [← String.toList_inj, String.toList_append, String.toList_ofList]
      exact hname
    · rw [String.lt_iff_toList_lt, toList_writePair, toList_writePair, String.toList_ofList]
      exact List.cons_lt_cons_iff.2 (.inl hlt)

/-! ### The names in a key -/

/-- In sorted texts the labels are ascending just if none overtakes another. -/
lemma pairwise_names_iff {pairs : List (String × String)} (hnames : (pairs.map Prod.fst).Nodup)
    (htexts : (pairs.map writePair).Pairwise (· ≤ ·)) :
    (pairs.map Prod.fst).Pairwise (· < ·) ↔
      ∀ label ∈ pairs, ∀ other ∈ pairs, ¬ Overtakes label other := by
  rw [List.pairwise_map] at htexts
  constructor
  · intro hascending label hlabel other hother hover
    rw [List.pairwise_map] at hascending
    have hpairs : pairs.Pairwise fun a b => ¬ Overtakes a b ∧ ¬ Overtakes b a :=
      (hascending.and htexts).imp fun h =>
        ⟨fun hover => hover.lt.1.asymm h.1, fun hover => not_lt_of_ge h.2 hover.lt.2⟩
    have hsymm : Std.Symm fun a b : String × String => ¬ Overtakes a b ∧ ¬ Overtakes b a :=
      ⟨fun _ _ => And.symm⟩
    have hself (a : String × String) : ¬ Overtakes a a := fun hover => hover.lt.1.false
    exact (hpairs.forall_of_forall (fun a _ => ⟨hself a, hself a⟩) hlabel hother).1 hover
  · intro hnone
    have hne : pairs.Pairwise fun a b => a.1 ≠ b.1 := List.pairwise_map.1 hnames
    rw [List.pairwise_map]
    refine (htexts.and hne).imp_of_mem fun {a b} ha hb h => ?_
    refine (lt_or_gt_of_ne h.2).resolve_right fun hgt => ?_
    obtain hlt | hover := writePair_lt_or_overtakes hgt
    · exact absurd hlt (not_lt_of_ge h.1)
    · exact hnone a ha b hb hover

/-- A key has the labels in some order, and their names are ascending just if no label overtakes
another: just if no name goes on behind another one with a character in front of the equals sign. -/
theorem names_in_key (labels : TextLabels) :
    (∃ pairs : List (String × String), pairs.Perm (seriesPairs labels) ∧
      (ofTexts labels).key =
        .ok (.text (keyText (seriesName labels) (pairs.map writePair))) ∧
      ((pairs.map Prod.fst).Pairwise (· < ·) ↔
        ∀ label ∈ seriesPairs labels, ∀ other ∈ seriesPairs labels, ¬ Overtakes label other)) ∧
    ∀ label other : String × String, '=' ∉ label.1.toList →
      (Overtakes label other ↔
        ∃ c rest, label.1.toList = other.1.toList ++ c :: rest ∧ c < '=') := by
  refine ⟨?_, fun label other h => overtakes_iff h other⟩
  obtain ⟨pairs, hperm, hsorted⟩ := exists_perm_sortedPairs labels
  have htexts : (pairs.map writePair).Pairwise (· ≤ ·) := by
    rw [← hsorted]
    exact List.pairwise_mergeSort' (· ≤ ·) _
  have hnames : (pairs.map Prod.fst).Nodup :=
    (hperm.map Prod.fst).nodup_iff.2 (nodup_keys_seriesPairs labels)
  refine ⟨pairs, hperm, by rw [key_ofTexts, hsorted], (pairwise_names_iff hnames htexts).trans ?_⟩
  simp only [hperm.mem_iff]

/-- A label whose name goes on behind that of another one. -/
def continued (more : Char) : TextLabels where
  entries := [("a", "1"), (String.ofList ['a', more], "2")]
  nodup := by simp [← String.toList_inj]

lemma sortedPairs_continued (more : Char) :
    sortedPairs (continued more) =
      if writePair ("a", "1") ≤ writePair (String.ofList ['a', more], "2") then
        [writePair ("a", "1"), writePair (String.ofList ['a', more], "2")]
      else [writePair (String.ofList ['a', more], "2"), writePair ("a", "1")] := by
  have hpairs : seriesPairs (continued more) = (continued more).entries := by
    simp [seriesPairs, continued, ← String.toList_inj]
  rw [sortedPairs, hpairs]
  simp [continued, List.mergeSort, List.MergeSort.Internal.splitInTwo, List.merge]

/-- An underscore stands behind the equals sign, so the longer name comes last as it should. -/
theorem names_in_key_underscore :
    '=' ∉ "a_".toList ∧ ¬ Overtakes ("a_", "2") ("a", "1") ∧
      (ofTexts (continued '_')).key = .ok (.text "\x7ba=\"1\", a_=\"2\"\x7d") := by
  have h := (names_in_key (continued '_')).2 ("a_", "2") ("a", "1") (by decide)
  refine ⟨by decide, ?_, ?_⟩
  · rw [h]
    rintro ⟨c, rest, hname, hlt⟩
    cases hname
    exact absurd hlt (by decide)
  · rw [key_ofTexts, sortedPairs_continued]
    decide

/-- A digit stands in front of the equals sign, so the longer name comes first. -/
theorem key_digit_overtakes :
    (ofTexts (continued '1')).key = .ok (.text "\x7ba1=\"2\", a=\"1\"\x7d") ∧ "a" < "a1" := by
  rw [key_ofTexts, sortedPairs_continued]
  decide

end Labels

end RuleFixtures
