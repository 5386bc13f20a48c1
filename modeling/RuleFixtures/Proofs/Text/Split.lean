import Mathlib.Data.List.DropRight
import Mathlib.Tactic
import RuleFixtures.Text.Blank
import RuleFixtures.Text.Split

/-!
The pieces of a text, and texts without the characters at their ends.

* `toList_pushn`: a text with one character repeated behind it.
* `splitAtChar_append_cons`: a separator between two texts keeps their pieces apart.
* `splitAtChar_joinWithChar`: pieces without separators come back from the text that joins them.
* `Trimmed` holds of texts without characters of a class at their ends; `trimList` gives such a text
  (`trimmed_trimList`) and leaves it as it is (`trimList_of_trimmed`).
-/

namespace RuleFixtures.Text

/-- A text with one character repeated behind it. -/
lemma toList_pushn (text : String) (c : Char) (n : ℕ) :
    (text.pushn c n).toList = text.toList ++ List.replicate n c := by
  rw [String.pushn_eq_repeat_push]
  induction n with
  | zero => simp [Nat.repeat]
  | succ n ih => rw [Nat.repeat, String.toList_push, ih, List.replicate_succ', List.append_assoc]

/-! ### Pieces -/

section Pieces

variable {separator : Char}

lemma splitAtChar_of_notMem {s : List Char} (h : separator ∉ s) :
    splitAtChar separator s = [s] := by
  induction s with
  | nil => rfl
  | cons c rest ih =>
    obtain ⟨hc, hrest⟩ := not_or.1 (mt List.mem_cons.2 h)
    rw [splitAtChar, if_neg (Ne.symm hc), ih hrest]

/-- What has no separator goes to the last piece. -/
lemma exists_splitAtChar_append {b : List Char} (hb : separator ∉ b) (a : List Char) :
    ∃ lines last, splitAtChar separator a = lines ++ [last] ∧
      splitAtChar separator (a ++ b) = lines ++ [last ++ b] := by
  induction a with
  | nil => exact ⟨[], [], rfl, splitAtChar_of_notMem hb⟩
  | cons c rest ih =>
    obtain ⟨lines, last, hrest, happend⟩ := ih
    by_cases hc : c = separator
    · refine ⟨[] :: lines, last, ?_, ?_⟩
      · rw [splitAtChar, if_pos hc, hrest, List.cons_append]
      · rw [List.cons_append, splitAtChar, if_pos hc, happend, List.cons_append]
    · rw [List.cons_append, splitAtChar, splitAtChar, if_neg hc, if_neg hc, hrest, happend]
      cases lines with
      | nil => exact ⟨[], c :: last, rfl, rfl⟩
      | cons line lines => exact ⟨(c :: line) :: lines, last, rfl, rfl⟩

lemma notMem_of_mem_splitAtChar {s line : List Char} (h : line ∈ splitAtChar separator s) :
    separator ∉ line := by
  induction s generalizing line with
  | nil => simp_all [splitAtChar]
  | cons c rest ih =>
    unfold splitAtChar at h
    split at h
    · rw [List.mem_cons] at h
      obtain rfl | h := h
      · simp
      · exact ih h
    · next hc =>
      have hhead {piece : List Char} (hpiece : separator ∉ piece) : separator ∉ c :: piece :=
        mt List.mem_cons.1 (not_or.2 ⟨Ne.symm hc, hpiece⟩)
      split at h
      · next piece pieces hrest =>
        rw [List.mem_cons] at h
        obtain rfl | h := h
        · exact hhead (ih (by rw [hrest]; exact List.mem_cons_self))
        · exact ih (by rw [hrest]; exact List.mem_cons_of_mem _ h)
      · rw [List.mem_singleton] at h
        rw [h]
        exact hhead List.not_mem_nil

/-- The pieces with a separator behind each of them. -/
lemma flatMap_splitAtChar (s : List Char) :
    ((splitAtChar separator s).flatMap fun line => line ++ [separator]) = s ++ [separator] := by
  have hjoin {lines : List (List Char)} (h : lines ≠ []) :
      (lines.flatMap fun line => line ++ [separator]) =
        joinWithChar separator lines ++ [separator] := by
    induction lines with
    | nil => exact absurd rfl h
    | cons line lines ih =>
      cases lines with
      | nil => simp [joinWithChar]
      | cons next lines => simp [joinWithChar, ← ih (List.cons_ne_nil _ _)]
  rw [hjoin (splitAtChar_ne_nil separator s), join_splitAtChar]

lemma subset_of_mem_splitAtChar {s line : List Char} (h : line ∈ splitAtChar separator s) :
    line ⊆ s := by
  intro c hc
  have hmem : c ∈ (splitAtChar separator s).flatMap fun line => line ++ [separator] :=
    List.mem_flatMap.2 ⟨line, h, List.mem_append_left _ hc⟩
  rw [flatMap_splitAtChar, List.mem_append, List.mem_singleton] at hmem
  exact hmem.resolve_right fun heq => notMem_of_mem_splitAtChar h (heq ▸ hc)

/-- A separator between two texts keeps their pieces apart. -/
lemma splitAtChar_append_cons (a b : List Char) :
    splitAtChar separator (a ++ separator :: b) =
      splitAtChar separator a ++ splitAtChar separator b := by
  induction a with
  | nil => simp [splitAtChar]
  | cons c rest ih =>
    rw [List.cons_append, splitAtChar, splitAtChar, ih]
    by_cases hc : c = separator
    · rw [if_pos hc, if_pos hc, List.cons_append]
    · rw [if_neg hc, if_neg hc]
      cases hrest : splitAtChar separator rest with
      | nil => exact absurd hrest (splitAtChar_ne_nil separator rest)
      | cons piece pieces => rfl

/-- Pieces without separators come back from the text that joins them. -/
lemma splitAtChar_joinWithChar {pieces : List (List Char)} (hne : pieces ≠ [])
    (h : ∀ piece ∈ pieces, separator ∉ piece) :
    splitAtChar separator (joinWithChar separator pieces) = pieces := by
  induction pieces with
  | nil => exact absurd rfl hne
  | cons piece rest ih =>
    rw [List.forall_mem_cons] at h
    cases rest with
    | nil => rw [joinWithChar, splitAtChar_of_notMem h.1]
    | cons next rest =>
      rw [joinWithChar, splitAtChar_append_cons, splitAtChar_of_notMem h.1,
        ih (List.cons_ne_nil _ _) h.2, List.singleton_append]
      exact List.cons_ne_nil _ _

end Pieces

/-! ### Ends -/

section Ends

variable {drop : Char → Bool} {s : List Char}

/-- The text has no character of a class at its ends. -/
structure Trimmed (drop : Char → Bool) (s : List Char) : Prop where
  head : ∀ c ∈ s.head?, drop c = false
  last : ∀ c ∈ s.getLast?, drop c = false

lemma trimList_eq (drop : Char → Bool) (s : List Char) :
    trimList drop s = (s.dropWhile drop).rdropWhile drop := rfl

/-- Nothing of the class is left at the ends. -/
lemma trimmed_trimList (drop : Char → Bool) (s : List Char) : Trimmed drop (trimList drop s) := by
  rw [trimList_eq]
  constructor
  · intro c hc
    obtain ⟨dropped, hkept⟩ := List.rdropWhile_prefix drop (s.dropWhile drop)
    have hfound := List.head?_dropWhile_not drop s
    rw [← hkept, List.head?_append, Option.mem_def.1 hc] at hfound
    simpa using hfound
  · intro c hc
    obtain ⟨hne, rfl⟩ := List.mem_getLast?_eq_getLast hc
    simpa using List.rdropWhile_last_not drop (s.dropWhile drop) hne

lemma trimList_of_trimmed (h : Trimmed drop s) : trimList drop s = s := by
  have hhead : s.dropWhile drop = s := by
    refine List.dropWhile_eq_self_iff.2 fun hlength => ?_
    simp [h.head s[0] (List.head?_eq_getElem? ▸ List.getElem?_eq_getElem hlength)]
  rw [trimList_eq, hhead]
  refine List.rdropWhile_eq_self_iff.2 fun hne => ?_
  simp [h.last _ (List.getLast?_eq_getLast_of_ne_nil hne)]

/-- Nothing is dropped from a text without characters of the class. -/
lemma trimList_eq_self (h : ∀ c ∈ s, drop c = false) : trimList drop s = s :=
  trimList_of_trimmed
    ⟨fun _ hc => h _ (List.mem_of_mem_head? hc), fun _ hc => h _ (List.mem_of_mem_getLast? hc)⟩

/-- Only a text of characters of the class becomes empty. -/
lemma trimList_eq_nil_iff : trimList drop s = [] ↔ ∀ c ∈ s, drop c = true := by
  rw [trimList_eq, List.rdropWhile_eq_nil_iff, ← List.dropWhile_eq_nil_iff,
    List.dropWhile_idempotent, List.dropWhile_eq_nil_iff]

lemma trimList_subset (drop : Char → Bool) (s : List Char) : trimList drop s ⊆ s :=
  List.Subset.trans (List.rdropWhile_prefix drop _).subset (List.dropWhile_suffix drop).subset

end Ends

end RuleFixtures.Text
