import Mathlib.Data.List.Infix
import RuleFixtures.Proofs.Number.DecimalText
import RuleFixtures.Proofs.Time.Milliseconds
import RuleFixtures.Time.DurationText

/-!
The texts of durations.

A number of milliseconds is broken down from the largest unit to the smallest. Years are no
multiple of weeks, so the counts are no digits of a mixed base; but what a unit leaves is below this
unit, and this bounds the count of the next one.

* `DurationText.Part` is a count of a unit, `DurationText.partsOf` breaks milliseconds down.
* `DurationText.IsBreakdown` describes the parts, and `DurationText.isBreakdown_partsOf` shows that
  the units are in order, the counts positive and below the next larger unit, and the sum whole.
* `DurationText.readParts?_flatMap_text`: parts in the order of the units are read as their sum.
* `DurationText.writes_of_milliseconds`: the text of whole milliseconds is read as these.
-/

namespace RuleFixtures.DurationText

/-- A count of a unit. -/
structure Part where
  count : ℕ
  /-- The name of the unit and its milliseconds. -/
  unit : List Char × ℕ

namespace Part

/-- The count and the name of the unit. -/
def text (part : Part) : List Char := Nat.toDigits 10 part.count ++ part.unit.1

/-- The milliseconds of the part. -/
def length (part : Part) : ℕ := part.count * part.unit.2

end Part

/-- The parts of a number of milliseconds, each unit taking what is left of the larger ones. -/
def partsOf : List (List Char × ℕ) → ℕ → List Part
  | [], _ => []
  | unit :: smaller, ms =>
    (if ms / unit.2 = 0 then [] else [⟨ms / unit.2, unit⟩]) ++ partsOf smaller (ms % unit.2)

lemma partsOf_nil (ms : ℕ) : partsOf [] ms = [] := rfl

lemma partsOf_cons (unit : List Char × ℕ) (smaller : List (List Char × ℕ)) (ms : ℕ) :
    partsOf (unit :: smaller) ms =
      (if ms / unit.2 = 0 then [] else [⟨ms / unit.2, unit⟩]) ++ partsOf smaller (ms % unit.2) :=
  rfl

/-- Milliseconds are broken down into parts. -/
structure IsBreakdown (units : List (List Char × ℕ)) (parts : List Part) (ms : ℕ) : Prop where
  /-- The units are in their order, each at most once. -/
  order : (parts.map Part.unit).Sublist units
  positive : ∀ part ∈ parts, 0 < part.count
  /-- A part is less than the next larger unit, if there is one. -/
  below : ∀ part ∈ parts, ∀ larger, [larger, part.unit] <:+: units → part.length < larger.2
  total : (parts.map Part.length).sum = ms

/-! ### Breaking down -/

section Breakdown

variable {units : List (List Char × ℕ)} {ms : ℕ}

/-- The text of milliseconds is made of their parts. -/
lemma writeParts_eq (units : List (List Char × ℕ)) (ms : ℕ) :
    writeParts units ms = (partsOf units ms).flatMap Part.text := by
  induction units generalizing ms with
  | nil => rfl
  | cons unit smaller ih =>
    have hdiv : (ms : ℤ) / (unit.2 : ℤ) = (ms / unit.2 : ℕ) := rfl
    have hmod : (ms : ℤ) % (unit.2 : ℤ) = (ms % unit.2 : ℕ) := rfl
    rw [writeParts, partsOf_cons, List.flatMap_append, hdiv, hmod, ih]
    congr 1
    by_cases hzero : ms / unit.2 = 0
    · rw [if_pos (by exact_mod_cast hzero), if_pos hzero, List.flatMap_nil]
    · have hcount : toString ((ms / unit.2 : ℕ) : ℤ) = Nat.repr (ms / unit.2) := rfl
      rw [if_neg (by exact_mod_cast hzero), if_neg hzero, List.flatMap_singleton, Part.text, hcount,
        Nat.toList_repr]

lemma partsOf_order (units : List (List Char × ℕ)) (ms : ℕ) :
    ((partsOf units ms).map Part.unit).Sublist units := by
  induction units generalizing ms with
  | nil => exact .slnil
  | cons unit smaller ih =>
    rw [partsOf_cons]
    split
    · exact (ih _).cons unit
    · exact (ih _).cons_cons unit

lemma partsOf_positive : ∀ part ∈ partsOf units ms, 0 < part.count := by
  induction units generalizing ms with
  | nil => simp [partsOf_nil]
  | cons unit smaller ih =>
    rw [partsOf_cons, List.forall_mem_append]
    refine ⟨?_, ih⟩
    split
    · simp
    · next h => simpa using Nat.pos_of_ne_zero h

/-- No part is more than the whole. -/
lemma length_le_of_mem_partsOf : ∀ part ∈ partsOf units ms, part.length ≤ ms := by
  induction units generalizing ms with
  | nil => simp [partsOf_nil]
  | cons unit smaller ih =>
    rw [partsOf_cons, List.forall_mem_append]
    refine ⟨?_, fun part hpart => (ih part hpart).trans (Nat.mod_le _ _)⟩
    split
    · simp
    · simpa [Part.length] using Nat.div_mul_le_self ms unit.2

/-- What a unit leaves is below it, and so is the part of the next unit. -/
lemma partsOf_below (hdistinct : units.Nodup) (hpos : ∀ unit ∈ units, 0 < unit.2) :
    ∀ part ∈ partsOf units ms, ∀ larger, [larger, part.unit] <:+: units →
      part.length < larger.2 := by
  induction units generalizing ms with
  | nil => simp [partsOf_nil]
  | cons unit smaller ih =>
    rw [List.nodup_cons] at hdistinct
    rw [List.forall_mem_cons] at hpos
    intro part hpart larger hnext
    rw [partsOf_cons, List.mem_append] at hpart
    rw [List.infix_cons_iff] at hnext
    rcases hpart with hfirst | hrest
    · -- the first unit comes after no other
      have hunit : part.unit = unit := by
        split at hfirst
        · simp at hfirst
        · rw [List.mem_singleton.1 hfirst]
      have hmem : unit ∈ smaller := by
        rw [hunit] at hnext
        rcases hnext with hprefix | hinfix
        · exact (List.cons_prefix_cons.1 hprefix).2.subset (List.mem_singleton_self _)
        · exact hinfix.subset (by simp)
      exact absurd hmem hdistinct.1
    -- the part of the next unit is made of what the first one leaves
    · rcases hnext with hprefix | hinfix
      · rw [(List.cons_prefix_cons.1 hprefix).1]
        exact (length_le_of_mem_partsOf part hrest).trans_lt (Nat.mod_lt _ hpos.1)
      · exact ih hdistinct.2 hpos.2 part hrest larger hinfix

/-- The parts are all but what the last unit leaves. -/
lemma sum_partsOf (units : List (List Char × ℕ)) (ms : ℕ) :
    ((partsOf units ms).map Part.length).sum + units.foldl (fun rest unit => rest % unit.2) ms =
      ms := by
  induction units generalizing ms with
  | nil => simp [partsOf_nil]
  | cons unit smaller ih =>
    have hfirst : ((if ms / unit.2 = 0 then [] else [(⟨ms / unit.2, unit⟩ : Part)]).map
        Part.length).sum = ms / unit.2 * unit.2 := by
      split
      · next h => simp [h]
      · simp [Part.length]
    rw [partsOf_cons, List.map_append, List.sum_append, hfirst, List.foldl_cons, Nat.add_assoc, ih]
    exact Nat.div_add_mod' ms unit.2

end Breakdown

lemma nodup_units : units.Nodup := by decide

/-- Milliseconds are the smallest unit, so nothing is left. -/
theorem isBreakdown_partsOf (ms : ℕ) : IsBreakdown units (partsOf units ms) ms where
  order := partsOf_order units ms
  positive := partsOf_positive
  below := partsOf_below nodup_units (by decide)
  total := by
    have hrest : units.foldl (fun rest unit => rest % unit.2) ms = 0 := by
      simp [units, Nat.mod_one]
    have hsum := sum_partsOf units ms
    rwa [hrest, Nat.add_zero] at hsum

/-! ### Reading -/

/-- The name of a unit: letters, at least one. -/
def IsName (name : List Char) : Prop := name ≠ [] ∧ ∀ c ∈ name, c.isAlpha = true

instance : DecidablePred IsName := fun name =>
  decidable_of_iff (name ≠ [] ∧ name.all Char.isAlpha = true) (by rw [IsName, List.all_eq_true])

/-- A text does not go on with a letter. -/
def EndsName (s : List Char) : Prop := ∀ c ∈ s.head?, c.isAlpha = false

lemma isAlpha_eq_false_of_isDigit {c : Char} (h : c.isDigit = true) : c.isAlpha = false := by
  unfold Char.isDigit at h
  unfold Char.isAlpha Char.isUpper Char.isLower
  grind

lemma isDigit_eq_false_of_isAlpha {c : Char} (h : c.isAlpha = true) : c.isDigit = false := by
  by_contra hdigit
  rw [isAlpha_eq_false_of_isDigit (by simpa using hdigit)] at h
  cases h

section Reading

variable {units : List (List Char × ℕ)} {parts : List Part} {part : Part} {tail : List Char}

/-- The text of a part is split where its count and its name end. -/
lemma split_text (hname : IsName part.unit.1) (htail : EndsName tail) :
    (part.text ++ tail).takeWhile Char.isDigit = Nat.toDigits 10 part.count ∧
      (part.text ++ tail).dropWhile Char.isDigit = part.unit.1 ++ tail ∧
      (part.unit.1 ++ tail).takeWhile Char.isAlpha = part.unit.1 := by
  have hstop : ∀ c ∈ (part.unit.1 ++ tail).head?, c.isDigit = false := by
    obtain ⟨c, rest, hcons⟩ := List.exists_cons_of_ne_nil hname.1
    have hc : c.isAlpha = true := hname.2 c (by simp [hcons])
    rw [hcons]
    intro d hd
    obtain rfl : c = d := by simpa using hd
    exact isDigit_eq_false_of_isAlpha hc
  obtain ⟨htake, hdrop⟩ := (Digits.toDigits part.count).span hstop
  rw [Part.text, List.append_assoc]
  refine ⟨htake, hdrop, ?_⟩
  rw [List.takeWhile_append_of_pos hname.2]
  cases tail with
  | nil => simp
  | cons c rest =>
    have hc : c.isAlpha = false := htail c rfl
    rw [List.takeWhile_cons_of_neg (by simp [hc]), List.append_nil]

/-- The text of parts does not start with a letter. -/
lemma endsName_flatMap_text (parts : List Part) : EndsName (parts.flatMap Part.text) := by
  cases parts with
  | nil => simp [EndsName]
  | cons part rest =>
    obtain ⟨c, digits, hcons⟩ := List.exists_cons_of_ne_nil
      (Nat.toDigits_ne_nil (b := 10) (n := part.count))
    have hc : c.isDigit = true := Digits.toDigits part.count c (by simp [hcons])
    intro d hd
    rw [List.flatMap_cons, Part.text, hcons] at hd
    obtain rfl : c = d := by simpa using hd
    exact isAlpha_eq_false_of_isDigit hc

/-- Parts in the order of the units are read as their sum. -/
theorem readParts?_flatMap_text (horder : (parts.map Part.unit).Sublist units)
    (hnames : ∀ unit ∈ units, IsName unit.1) (hdistinct : (units.map Prod.fst).Nodup) :
    readParts? units (parts.flatMap Part.text) = some (parts.map Part.length).sum := by
  induction units generalizing parts with
  | nil =>
    obtain rfl : parts = [] := List.map_eq_nil_iff.1 (List.sublist_nil.1 horder)
    rfl
  | cons unit smaller ih =>
    rw [List.map_cons, List.nodup_cons] at hdistinct
    cases parts with
    | nil =>
      rw [readParts?]
      exact ih (List.nil_sublist _) (List.forall_mem_cons.1 hnames).2 hdistinct.2
    | cons part rest =>
      -- the text starts with the count and the name of the first part
      have hmem : part.unit ∈ unit :: smaller := horder.subset (by simp)
      obtain ⟨hcount, hbehind, htake⟩ :=
        split_text (hnames part.unit hmem) (endsName_flatMap_text rest)
      have hsome : (Nat.toDigits 10 part.count).isEmpty = false := by simp [Nat.toDigits_ne_nil]
      rw [List.flatMap_cons, readParts?, hcount, hbehind, htake, hsome]
      rw [List.forall_mem_cons] at hnames
      rcases List.sublist_cons_iff.1 horder with hskip | ⟨_, hunits, hrest⟩
      · -- the first unit is not counted
        have hother : part.unit.1 ≠ unit.1 := by
          intro hname
          exact hdistinct.1 (hname ▸ List.mem_map_of_mem (hskip.subset (by simp)))
        have hread := ih hskip hnames.2 hdistinct.2
        rw [List.flatMap_cons] at hread
        simpa [hother] using hread
      · obtain ⟨rfl, rfl⟩ := List.cons.inj hunits
        simp [ih hrest hnames.2 hdistinct.2, Part.length]

end Reading

/-- A text stands for a number of milliseconds. -/
structure Writes (text : String) (ms : ℕ) : Prop where
  zero : ms = 0 → text = "0s"
  parts : ms ≠ 0 → ∃ parts, IsBreakdown units parts ms ∧ text.toList = parts.flatMap Part.text
  read : read? text.toList = some ms

lemma exists_cons_of_total {parts : List Part} {ms : ℕ}
    (htotal : (parts.map Part.length).sum = ms) (hms : ms ≠ 0) :
    ∃ part rest, parts = part :: rest := by
  refine List.exists_cons_of_ne_nil ?_
  rintro rfl
  exact hms htotal.symm

lemma isName_units : ∀ unit ∈ units, IsName unit.1 := by decide

/-- The text of milliseconds stands for these. -/
theorem writes_writeMilliseconds (ms : ℕ) : Writes (writeMilliseconds ms) ms := by
  by_cases hzero : ms = 0
  · obtain rfl := hzero
    exact ⟨fun _ => rfl, fun h => absurd rfl h, by decide⟩
  have hbreakdown := isBreakdown_partsOf ms
  have htext : (writeMilliseconds ms).toList = (partsOf units ms).flatMap Part.text := by
    rw [writeMilliseconds, if_neg (by exact_mod_cast hzero), String.toList_ofList, writeParts_eq]
  refine ⟨fun h => absurd h hzero, fun _ => ⟨_, hbreakdown, htext⟩, ?_⟩
  obtain ⟨part, rest, hparts⟩ := exists_cons_of_total hbreakdown.total hzero
  have hsome : (writeMilliseconds ms).toList.isEmpty = false := by
    simp [htext, hparts, Part.text, Nat.toDigits_ne_nil]
  have hread := readParts?_flatMap_text hbreakdown.order isName_units (by decide)
  rw [read?, hsome, if_neg (by simp), htext, hread, hbreakdown.total]

/-- So does the text of a duration of whole milliseconds, not more than `2 ^ 50` of them. -/
theorem writes_of_milliseconds {d : Duration} {ms : ℕ} (hd : d.micros = 1000 * ms)
    (hsmall : ms ≤ 2 ^ 50) : Writes (write d) ms := by
  rw [write, Duration.milliseconds_eq hd hsmall]
  exact writes_writeMilliseconds ms

end RuleFixtures.DurationText
