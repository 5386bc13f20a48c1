import Mathlib.Tactic
import RuleFixtures.Console.Lines
import RuleFixtures.Proofs.Text.Split

/-!
Lines that do not wrap.

* `SameLines` says of two texts that they have as many lines; `SameLines.append_inj`: what follows
  such texts does not make up for a difference in them.
* `unwrappedText` is a text as it is written; `unwrappedText_eq_iff` says which texts are written as
  they are.
* `sameLines_unwrappedText`: as many lines are written as the text has, if a line has any cells.
* `exists_unwrappedText_append`: the end of a text is written as it is unless it has white space.
-/

namespace RuleFixtures.Console

/-! ### Texts of as many lines -/

/-- Texts of complete lines, with as many lines. -/
structure SameLines (a b : List Char) : Prop where
  left : ∀ c, a.getLast? = some c → c = '\n'
  right : ∀ c, b.getLast? = some c → c = '\n'
  count : a.count '\n' = b.count '\n'

namespace SameLines

variable {a b s t : List Char}

lemma symm (h : SameLines a b) : SameLines b a := ⟨h.right, h.left, h.count.symm⟩

lemma ended (h : s.count '\n' = t.count '\n') : SameLines (s ++ ['\n']) (t ++ ['\n']) :=
  ⟨by simp, by simp, by simpa using h⟩

/-- Nothing without a line feed is more at the end. -/
lemma eq_nil_of_append {more : List Char} (h : SameLines a (a ++ more)) : more = [] := by
  have hcount := h.count
  rw [List.count_append] at hcount
  rcases List.eq_nil_or_concat more with rfl | ⟨init, c, rfl⟩
  · rfl
  · obtain rfl := h.right c (by simp)
    simp at hcount

lemma append_inj (h : SameLines a b) (heq : a ++ s = b ++ t) : a = b ∧ s = t := by
  obtain ⟨more, rfl, hs⟩ | ⟨more, rfl, ht⟩ := List.append_eq_append_iff.1 heq
  · obtain rfl := h.eq_nil_of_append
    exact ⟨by simp, by simpa using hs⟩
  · obtain rfl := h.symm.eq_nil_of_append
    exact ⟨by simp, by simpa using ht.symm⟩

/-- Texts put together from texts of as many lines are equal only piece by piece. -/
lemma flatMap_inj {α : Type} {f g : α → List Char} {items : List α}
    (h : ∀ item ∈ items, SameLines (f item) (g item)) (heq : items.flatMap f = items.flatMap g) :
    ∀ item ∈ items, f item = g item := by
  induction items with
  | nil => simp
  | cons item items ih =>
    rw [List.forall_mem_cons] at h ⊢
    rw [List.flatMap_cons, List.flatMap_cons] at heq
    obtain ⟨hfirst, hrest⟩ := h.1.append_inj heq
    exact ⟨hfirst, ih h.2 hrest⟩

lemma append (h : SameLines a b) (h' : SameLines s t) : SameLines (a ++ s) (b ++ t) := by
  have hlast {x y : List Char} (hx : ∀ c, x.getLast? = some c → c = '\n')
      (hy : ∀ c, y.getLast? = some c → c = '\n') : ∀ c, (x ++ y).getLast? = some c → c = '\n' := by
    intro c hc
    rw [List.getLast?_append, Option.or_eq_some_iff] at hc
    obtain hc | ⟨-, hc⟩ := hc
    · exact hy c hc
    · exact hx c hc
  refine ⟨hlast h.left h'.left, hlast h.right h'.right, ?_⟩
  rw [List.count_append, List.count_append, h.count, h'.count]

lemma flatMap {α : Type} {f g : α → List Char} {items : List α}
    (h : ∀ item ∈ items, SameLines (f item) (g item)) :
    SameLines (items.flatMap f) (items.flatMap g) := by
  induction items with
  | nil => exact ⟨by simp, by simp, rfl⟩
  | cons item items ih =>
    rw [List.forall_mem_cons] at h
    exact h.1.append (ih h.2)

end SameLines

/-! ### Characters as items -/

@[simp] lemma char_char (c : Char) : Item.char c = c := rfl

@[simp] lemma blank_char (c : Char) : Item.blank c = ' ' := rfl

@[simp] lemma isBlank_char (c : Char) : isBlank c = Text.isBlank c := rfl

lemma splitLines_char (s : List Char) : splitLines s = Text.splitAtChar '\n' s := by
  induction s with
  | nil => rfl
  | cons c rest ih =>
    rw [splitLines, ih, Text.splitAtChar]
    cases Text.splitAtChar '\n' rest <;> rfl

/-! ### Tabs and white space at the end -/

lemma mem_expandTabsFrom {c : Char} {column : ℕ} {line : List Char}
    (h : c ∈ expandTabsFrom column line) : c ≠ '\t' ∧ (c = ' ' ∨ c ∈ line) := by
  induction line generalizing column with
  | nil => simp [expandTabsFrom] at h
  | cons d rest ih =>
    rw [expandTabsFrom] at h
    split at h
    · rw [List.mem_append] at h
      obtain h | h := h
      · obtain rfl : c = ' ' := List.eq_of_mem_replicate h
        exact ⟨by decide, .inl rfl⟩
      · exact (ih h).imp_right fun h => h.imp_right (List.mem_cons_of_mem _)
    · next hd =>
      rw [List.mem_cons] at h
      obtain rfl | h := h
      · exact ⟨hd, .inr List.mem_cons_self⟩
      · exact (ih h).imp_right fun h => h.imp_right (List.mem_cons_of_mem _)

lemma expandTabsFrom_of_notMem {line : List Char} (h : '\t' ∉ line) (column : ℕ) :
    expandTabsFrom column line = line := by
  induction line generalizing column with
  | nil => rfl
  | cons c rest ih =>
    obtain ⟨hc, hrest⟩ := not_or.1 (mt List.mem_cons.2 h)
    rw [expandTabsFrom, char_char, if_neg (Ne.symm hc), ih hrest]

/-- Lines that are no longer than the width or do not end with white space. -/
def KeepsEnd (width : ℕ) (line : List Char) : Prop :=
  line.length ≤ width ∨ ∀ c, line.getLast? = some c → Text.isBlank c = false

lemma cropBlanks_eq_self_iff {width : ℕ} {line : List Char} :
    cropBlanks width line = line ↔ KeepsEnd width line := by
  obtain ⟨s, rfl⟩ : ∃ s : List Char, line = s.reverse := ⟨line.reverse, by simp⟩
  rw [cropBlanks, List.reverse_reverse, List.take_eq_self_iff, KeepsEnd, List.getLast?_reverse,
    List.length_reverse]
  cases s with
  | nil => simp
  | cons c s =>
    cases hc : Text.isBlank c with
    | false => simp [hc]
    | true =>
      simp only [List.takeWhile_cons, isBlank_char, hc, if_true, List.length_cons, List.head?_cons,
        Option.some.injEq, forall_eq', Bool.true_eq_false, or_false]
      omega

/-! ### The text that is written -/

/-- A text as it is written without wrapping. -/
def unwrappedText (width : ℕ) (text : List Char) : List Char :=
  (unwrapped width text).flatMap fun line => line ++ ['\n']

section Unwrapped

variable {width : ℕ} {text : List Char}

/-- Without a cell in a line nothing is written. -/
lemma unwrappedText_zero (text : List Char) : unwrappedText 0 text = [] := rfl

lemma unwrappedText_eq_flatMap (hwidth : 0 < width) (text : List Char) :
    unwrappedText width text =
      (Text.splitAtChar '\n' text).flatMap fun line =>
        cropBlanks width (expandTabs line) ++ ['\n'] := by
  rw [unwrappedText, unwrapped, if_neg hwidth.ne', List.flatMap_map, splitLines_char]

lemma mem_of_mem_written {c : Char} {line : List Char}
    (h : c ∈ cropBlanks width (expandTabs line)) : c ≠ '\t' ∧ (c = ' ' ∨ c ∈ line) :=
  mem_expandTabsFrom ((List.take_subset _ _) h)

lemma tab_notMem_unwrappedText : '\t' ∉ unwrappedText width text := by
  rcases width.eq_zero_or_pos with rfl | hwidth
  · rw [unwrappedText_zero]
    exact List.not_mem_nil
  rw [unwrappedText_eq_flatMap hwidth, List.mem_flatMap]
  rintro ⟨line, -, hmem⟩
  rw [List.mem_append] at hmem
  obtain hmem | hmem := hmem
  · exact (mem_of_mem_written hmem).1 rfl
  · simp at hmem

/-- What is written has no tabs. -/
lemma tab_notMem_of_unwrappedText {other : List Char}
    (h : unwrappedText width text = other ++ ['\n']) : '\t' ∉ other := by
  have hnone : '\t' ∉ other ++ ['\n'] := by
    rw [← h]
    exact tab_notMem_unwrappedText
  exact mt (List.mem_append_left _) hnone

/-- A line as it is written and as it is. -/
lemma sameLines_written {line : List Char} (h : line ∈ Text.splitAtChar '\n' text) :
    SameLines (cropBlanks width (expandTabs line) ++ ['\n']) (line ++ ['\n']) := by
  have hline := Text.notMem_of_mem_splitAtChar h
  have hwritten : '\n' ∉ cropBlanks width (expandTabs line) := fun hmem =>
    (mem_of_mem_written hmem).2.elim (by decide) hline
  exact .ended (by rw [List.count_eq_zero.2 hwritten, List.count_eq_zero.2 hline])

/-- As many lines are written as the text has. -/
lemma sameLines_unwrappedText (hwidth : 0 < width) :
    SameLines (unwrappedText width text) (text ++ ['\n']) := by
  rw [unwrappedText_eq_flatMap hwidth, ← Text.flatMap_splitAtChar]
  exact .flatMap fun line => sameLines_written

/-- Without tabs only white space at the end of lines is dropped. -/
lemma unwrappedText_of_notMem (hwidth : 0 < width) (h : '\t' ∉ text) :
    unwrappedText width text =
      (Text.splitAtChar '\n' text).flatMap fun line => cropBlanks width line ++ ['\n'] := by
  rw [unwrappedText_eq_flatMap hwidth]
  refine List.flatMap_congr fun line hline => ?_
  rw [expandTabs, expandTabsFrom_of_notMem (mt (Text.subset_of_mem_splitAtChar hline ·) h)]

/-- Nothing is added to a text without tabs. -/
lemma unwrappedText_sublist (width : ℕ) (h : '\t' ∉ text) :
    (unwrappedText width text).Sublist (text ++ ['\n']) := by
  rcases width.eq_zero_or_pos with rfl | hwidth
  · rw [unwrappedText_zero]
    exact List.nil_sublist _
  have hsublist (lines : List (List Char)) :
      (lines.flatMap fun line => cropBlanks width line ++ ['\n']).Sublist
        (lines.flatMap fun line => line ++ ['\n']) := by
    induction lines with
    | nil => exact List.Sublist.slnil
    | cons line lines ih => exact ((List.take_sublist _ _).append (List.Sublist.refl _)).append ih
  rw [unwrappedText_of_notMem hwidth h, ← Text.flatMap_splitAtChar]
  exact hsublist _

/-- A text is written as it is exactly if a line has any cells, and the text has no tabs and no long
line that ends with white space. -/
theorem unwrappedText_eq_iff : unwrappedText width text = text ++ ['\n'] ↔
    0 < width ∧ '\t' ∉ text ∧ ∀ line ∈ Text.splitAtChar '\n' text, KeepsEnd width line := by
  constructor
  · intro h
    have hwidth : 0 < width := by
      refine Nat.pos_of_ne_zero ?_
      rintro rfl
      simp [unwrappedText_zero] at h
    have htab := tab_notMem_of_unwrappedText h
    rw [unwrappedText_eq_flatMap hwidth, ← Text.flatMap_splitAtChar] at h
    refine ⟨hwidth, htab, fun line hline => cropBlanks_eq_self_iff.1 ?_⟩
    have hwritten := List.append_cancel_right
      (SameLines.flatMap_inj (fun line => sameLines_written) h line hline)
    rwa [expandTabs, expandTabsFrom_of_notMem (mt (Text.subset_of_mem_splitAtChar hline ·) htab)]
      at hwritten
  · rintro ⟨hwidth, htab, hkept⟩
    rw [unwrappedText_of_notMem hwidth htab, ← Text.flatMap_splitAtChar]
    refine List.flatMap_congr fun line hline => ?_
    rw [cropBlanks_eq_self_iff.2 (hkept line hline)]

/-- What ends a text is written as it is, unless there is white space in it. -/
lemma exists_unwrappedText_append (hwidth : 0 < width) {tail : List Char} (htab : '\t' ∉ text)
    (hne : tail ≠ []) (hunbroken : ∀ c ∈ tail, Text.isBlank c = false) :
    ∃ s, unwrappedText width (text ++ tail) = s ++ tail ++ ['\n'] := by
  have hnone {c : Char} (hc : Text.isBlank c = true) : c ∉ tail := fun hmem => by
    simpa [hc] using hunbroken c hmem
  obtain ⟨lines, last, -, hsplit⟩ :=
    Text.exists_splitAtChar_append (hnone (c := '\n') (by decide)) text
  have hkept : cropBlanks width (last ++ tail) = last ++ tail := by
    refine cropBlanks_eq_self_iff.2 (.inr fun c hc => ?_)
    rw [List.getLast?_append_of_ne_nil _ hne] at hc
    exact hunbroken c (List.mem_of_getLast? hc)
  have hbare : '\t' ∉ text ++ tail := fun hmem =>
    (List.mem_append.1 hmem).elim htab (hnone (by decide))
  refine ⟨(lines.flatMap fun line => cropBlanks width line ++ ['\n']) ++ last, ?_⟩
  rw [unwrappedText_of_notMem hwidth hbare, hsplit, List.flatMap_append, List.flatMap_singleton,
    hkept]
  simp only [List.append_assoc]

end Unwrapped

end RuleFixtures.Console
