import RuleFixtures.Proofs.Yaml.Numbers
import RuleFixtures.Proofs.Yaml.Quoted

/-!
Scalars are read back.

A text reads as itself, except where it is written in single quotes and has a next line, U+0085:
that break reads as a line feed, and where it is the first of several breaks, it is lost.

* `readBack` is the text that a text reads as; `readBack_eq_iff` says which texts are kept.
* `Scalar.read?_write`, `Scalar.read?_floatText`: a text and a number are read to the end of their
  line.
-/

namespace RuleFixtures.Yaml

/-- The text that a text reads as once it has been written. -/
def readBack (asBreak : Char → Char) (text : String) : String :=
  if Scalar.isSingle text.toList then String.ofList (Scalar.refold asBreak [] text.toList) else text

/-- A text is kept unless it is written in single quotes with a next line. -/
theorem readBack_eq_iff (text : String) :
    readBack lineFeed text = text ↔
      ¬ (Scalar.isSingle text.toList = true ∧ '\x85' ∈ text.toList) := by
  rw [readBack]
  split
  · next hsingle =>
    rw [← String.toList_inj, String.toList_ofList, Scalar.refold_lineFeed_eq_iff]
    simp [hsingle]
  · next hsingle => simp [hsingle]

/-- With all breaks as they are, a text is kept. -/
lemma readBack_id (text : String) : readBack id text = text := by
  rw [readBack, Scalar.refold_eq rfl (by simp) (by simp)]
  simp

namespace Scalar

variable {asBreak : Char → Char} {s rest : List Char}

/-! ### Plain texts -/

/-- A plain scalar has no marks of the format. -/
lemma marks_of_readPlain? {value : Json} (h : readPlain? s = some value) :
    hasLeadingMark s = false ∧ hasInnerMark s = false := by
  rw [readPlain?] at h
  split at h
  · cases h
  · next hplain => simp_all

/-- A plain scalar does not start with a quote or a bracket. -/
lemma head_notMem_of_readPlain? {value : Json} (h : readPlain? s = some value) :
    ∀ c ∈ s.head?, c ∉ ['\'', '"', '[', '\x7b'] := by
  have hmark := (marks_of_readPlain? h).1
  rintro c hc hmem
  obtain ⟨rest, rfl⟩ := List.head?_eq_some_iff.1 hc
  have hall : ∀ c ∈ ['\'', '"', '[', '\x7b'], ∀ rest, hasLeadingMark (c :: rest) = true := by
    simp [hasLeadingMark]
  rw [hall c hmem rest] at hmark
  cases hmark

/-- A scalar without quotes or brackets is read to the end of its line. -/
lemma read?_line {value : Json} (hvalue : readPlain? s = some value)
    (hbreaks : ∀ c ∈ s, isBreak c = false) :
    read? asBreak (s ++ '\n' :: rest) = some (value, rest) := by
  have hhead := head_notMem_of_readPlain? hvalue
  have hline : (s ++ '\n' :: rest).takeWhile (fun c => !isBreak c) = s := by
    rw [List.takeWhile_append_of_pos (by simpa using hbreaks),
      List.takeWhile_cons_of_neg (by decide), List.append_nil]
  have hstart (c : Char) (hc : c ∈ ['\'', '"', '[', '\x7b']) (tail : List Char) :
      s ++ '\n' :: rest ≠ c :: tail := by
    intro h
    cases s with
    | nil =>
      cases h
      exact absurd hc (by decide)
    | cons d s =>
      cases h
      exact hhead c rfl hc
  rw [read?, hline, List.drop_left, hvalue]
  · rfl
  · exact fun tail h => hstart '\'' (by decide) tail h
  · exact fun tail h => hstart '"' (by decide) tail h
  · exact fun tail h => hstart '[' (by decide) _ h
  · exact fun tail h => hstart '\x7b' (by decide) _ h

lemma hasInnerMark_append {t : List Char} (h : hasInnerMark (s ++ t) = false) :
    hasInnerMark t = false := by
  induction s with
  | nil => exact h
  | cons c s ih =>
    rw [List.cons_append, hasInnerMark, Bool.or_eq_false_iff] at h
    exact ih h.2

lemma startsItem_iff : startsItem s = true ↔ ∃ tail, s = '-' :: ' ' :: tail := by
  rw [startsItem.eq_def]
  split <;> simp_all

/-- The line of a plain scalar is no item. -/
lemma startsItem_line {value : Json} (hvalue : readPlain? s = some value) :
    startsItem (s ++ '\n' :: rest) = false := by
  have hmark := (marks_of_readPlain? hvalue).1
  rw [← Bool.not_eq_true, startsItem_iff]
  rintro ⟨tail, h⟩
  match s, h with
  | [], h => cases h
  | [c], h => cases h
  | c :: d :: s, h =>
    cases h
    simp [hasLeadingMark, endsWord, isSpaceOrBreak] at hmark

/-- The line of a plain scalar has no key. -/
lemma readKey?_line {value : Json} (hvalue : readPlain? s = some value) :
    readKey? (s ++ '\n' :: rest) = none := by
  have hmark := (marks_of_readPlain? hvalue).2
  have hword : ∀ c ∈ s.takeWhile isKeyChar, isKeyChar c = true :=
    List.all_eq_true.1 List.all_takeWhile
  have hsplit : s.takeWhile isKeyChar ++ s.dropWhile isKeyChar = s :=
    List.takeWhile_append_dropWhile
  have hstop : ∀ c ∈ (s.dropWhile isKeyChar).head?, isKeyChar c = false := by
    intro c hc
    have hnot := List.head?_dropWhile_not isKeyChar s
    rw [Option.mem_def.1 hc] at hnot
    simpa using hnot
  -- all that is kept of the two parts: the first consists of key characters, the second starts with
  -- none
  generalize s.takeWhile isKeyChar = word at hword hsplit
  generalize s.dropWhile isKeyChar = tail at hsplit hstop
  subst hsplit
  have htake : (word ++ (tail ++ '\n' :: rest)).takeWhile isKeyChar = word := by
    rw [List.takeWhile_append_of_pos hword]
    cases tail with
    | nil => simp [isKeyChar]
    | cons c tail => simp [hstop c rfl]
  rw [List.append_assoc, readKey?, htake, List.drop_left]
  -- a key needs a colon and a blank behind its word, which would be a mark in the scalar
  match tail, hasInnerMark_append hmark with
  | [], _ => rfl
  | [c], h =>
    have hc : c ≠ ':' := by
      rintro rfl
      exact absurd h (by decide)
    simp [hc]
  | c :: d :: tail, h =>
    by_cases hc : c = ':'
    · subst hc
      have hd : isSpaceOrBreak d = false := by
        simp only [hasInnerMark, endsWord, Bool.or_eq_false_iff] at h
        simpa using h.1.1
      simp only [isSpaceOrBreak, isBreak, Bool.or_eq_false_iff, decide_eq_false_iff_not] at hd
      simp [hd]
    · simp [hc]

/-- A text that is written plain could be written in single quotes, and has no breaks. -/
lemma single_of_isPlain (h : isPlain s = true) :
    isSingle s = true ∧ ∀ c ∈ s, isBreak c = false := by
  simp only [isPlain, Bool.and_eq_true, Bool.not_eq_true', List.any_eq_false, Bool.not_eq_true] at h
  obtain ⟨⟨⟨⟨⟨⟨-, hsingle⟩, hbreaks⟩, -⟩, -⟩, -⟩, -⟩ := h
  exact ⟨hsingle, hbreaks⟩

/-- A text that is written plain stands for itself. -/
lemma isText_of_isPlain (h : isPlain s = true) : Resolve.isText s = true := by
  simp only [isPlain, Bool.and_eq_true] at h
  exact h.1.1.1.1.1.1

/-- A text that is written plain is read as it is. -/
lemma readPlain?_isPlain (h : isPlain s = true) :
    readPlain? s = some (.text (String.ofList s)) := by
  have htext := isText_of_isPlain h
  simp only [isPlain, isSingle, Bool.and_eq_true, Bool.not_eq_true'] at h
  obtain ⟨⟨⟨⟨⟨⟨-, hspecial, -⟩, -⟩, hlead⟩, hinner⟩, hfirst⟩, hlast⟩ := h
  rw [readPlain?, hspecial, hlead, hinner, hfirst, hlast, htext]
  rfl

/-! ### Texts and numbers -/

/-- A text is read to the end of its line. -/
theorem read?_write {indent : ℕ} (hindent : 0 < indent) (text : String) :
    read? asBreak ((write indent text).toList ++ '\n' :: rest) =
      some (.text (readBack asBreak text), rest) := by
  rw [write, String.toList_ofList, writeList, readBack]
  by_cases hplain : isPlain text.toList = true
  · obtain ⟨hsingle, hbreaks⟩ := single_of_isPlain hplain
    rw [if_pos hplain, if_pos hsingle, refold_of_forall_not_isBreak hbreaks,
      read?_line (readPlain?_isPlain hplain) hbreaks]
  · rw [if_neg hplain]
    by_cases hsingle : isSingle text.toList = true
    · rw [if_pos hsingle, if_pos hsingle, List.append_assoc, List.cons_append,
        List.singleton_append, read?, readSingle?_singleBody hindent (by simp) hsingle]
      rfl
    · rw [if_neg hsingle, if_neg hsingle, List.append_assoc, List.cons_append,
        List.singleton_append, read?, readDouble?_flatMap]
      simp [endLine?]

/-- A number is read to the end of its line. -/
theorem read?_floatText (x : Binary64) :
    read? asBreak ((floatText x).toList ++ '\n' :: rest) = some (.float x, rest) := by
  refine read?_line (readPlain?_floatText x) fun c hc => ?_
  have hspace := (isNumeralChar_plain (numeral_floatText x c hc)).2.1
  simp only [isSpaceOrBreak, Bool.or_eq_false_iff] at hspace
  exact hspace.1.1.1.1

/-! ### Scalars as items -/

/-- The line starts neither with an item nor with a key. -/
def IsScalarLine (line : List Char) : Prop := startsItem line = false ∧ readKey? line = none

lemma isScalarLine_line {value : Json} (hvalue : readPlain? s = some value) :
    IsScalarLine (s ++ '\n' :: rest) :=
  ⟨startsItem_line hvalue, readKey?_line hvalue⟩

lemma isScalarLine_cons {c : Char} (hc : c ∈ ['\'', '"', '[', '\x7b']) :
    IsScalarLine (c :: rest) := by
  simp only [List.mem_cons, List.not_mem_nil, or_false] at hc
  rcases hc with rfl | rfl | rfl | rfl <;> exact ⟨rfl, rfl⟩

/-- A text is not taken for a block. -/
theorem isScalarLine_write (indent : ℕ) (text : String) :
    IsScalarLine ((write indent text).toList ++ '\n' :: rest) := by
  rw [write, String.toList_ofList, writeList]
  split_ifs with hplain hsingle
  · exact isScalarLine_line (readPlain?_isPlain hplain)
  · exact isScalarLine_cons (by decide)
  · exact isScalarLine_cons (by decide)

/-- Nor is a number. -/
theorem isScalarLine_floatText (x : Binary64) :
    IsScalarLine ((floatText x).toList ++ '\n' :: rest) :=
  isScalarLine_line (readPlain?_floatText x)

end Scalar

end RuleFixtures.Yaml
