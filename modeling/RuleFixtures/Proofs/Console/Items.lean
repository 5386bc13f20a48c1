import Mathlib.Tactic
import RuleFixtures.Console.Markup

/-!
Lines of items and lines of characters.

How a text is laid out depends on nothing but the characters that its items show. So the lines of
items that note something of their characters are those of the characters.

* `ItemMap` holds of maps that keep what items show.
* `ItemMap.flow_map` and `ItemMap.unwrapped_map`: such a map can be applied to a text or to its
  lines.
* `Rendered.lines_flow` and `Rendered.lines_unwrapped`: a text whose styles have no fault is laid
  out as its characters are.
-/

namespace RuleFixtures.Console

variable {α β : Type} [Item α] [Item β]

/-- The map keeps what an item shows, and blanks. -/
structure ItemMap (f : α → β) : Prop where
  char : ∀ item, Item.char (f item) = Item.char item
  blank : ∀ item, Item.blank (f item) = f (Item.blank item)

namespace ItemMap

variable {f : α → β} (h : ItemMap f)

include h

/-! ### Characters and cells -/

lemma isBlank_comp : isBlank ∘ f = isBlank := funext fun item => by
  rw [Function.comp_apply, isBlank, isBlank, h.char]

lemma cells_map (line : List α) : cells (line.map f) = cells line := by
  rw [cells, cells, List.map_map, funext h.char (f := Item.char ∘ f)]

lemma splitLines_map (s : List α) : splitLines (s.map f) = (splitLines s).map (List.map f) := by
  induction s with
  | nil => rfl
  | cons item rest ih =>
    rw [List.map_cons, splitLines, splitLines, h.char, ih]
    split
    · rfl
    · cases splitLines rest <;> rfl

lemma expandTabsFrom_map (column : ℕ) (line : List α) :
    expandTabsFrom column (line.map f) = (expandTabsFrom column line).map f := by
  induction line generalizing column with
  | nil => rfl
  | cons item rest ih =>
    rw [List.map_cons, expandTabsFrom, expandTabsFrom, h.char, ih, ih]
    split
    · rw [List.map_append, List.map_replicate, h.blank]
    · rfl

lemma expandTabs_map (line : List α) : expandTabs (line.map f) = (expandTabs line).map f :=
  h.expandTabsFrom_map 0 line

lemma cropBlanks_map (width : ℕ) (line : List α) :
    cropBlanks width (line.map f) = (cropBlanks width line).map f := by
  rw [cropBlanks, cropBlanks, ← List.map_reverse, List.takeWhile_map, h.isBlank_comp]
  simp only [List.length_map, List.map_take]

/-- A text that does not wrap. -/
theorem unwrapped_map (width : ℕ) (s : List α) :
    unwrapped width (s.map f) = (unwrapped width s).map (List.map f) := by
  rw [unwrapped, unwrapped, h.splitLines_map]
  split
  · rfl
  · simp only [List.map_map, Function.comp_def, h.expandTabs_map, h.cropBlanks_map]

/-! ### Words -/

lemma gather_map (line : List α) :
    blankedWords.gather (line.map f) = (blankedWords.gather line).map (List.map f) := by
  induction line with
  | nil => rfl
  | cons item rest ih =>
    cases rest with
    | nil => rfl
    | cons next rest =>
      have hblank (item : α) : isBlank (f item) = isBlank item := congrFun h.isBlank_comp item
      rw [List.map_cons, List.map_cons, blankedWords.gather, blankedWords.gather, ← List.map_cons,
        ih, hblank, hblank]
      split
      · rfl
      · cases blankedWords.gather (next :: rest) <;> rfl

lemma blankedWords_map (line : List α) :
    blankedWords (line.map f) = (blankedWords line).map (List.map f) := by
  rw [blankedWords, blankedWords, List.takeWhile_map, List.dropWhile_map, h.isBlank_comp]
  cases line.dropWhile isBlank with
  | nil => rfl
  | cons item rest =>
    rw [List.map_cons]
    dsimp only
    rw [← List.map_cons, h.gather_map]
    cases blankedWords.gather (item :: rest) with
    | nil => rfl
    | cons word words => simp

lemma chopCellsFrom_map (width used : ℕ) (part s : List α) :
    chopCellsFrom width used (part.map f) (s.map f) =
      (chopCellsFrom width used part s).map (List.map f) := by
  induction s generalizing used part with
  | nil => simp [chopCellsFrom]
  | cons item rest ih =>
    rw [List.map_cons, chopCellsFrom, chopCellsFrom, h.char]
    split
    · rw [List.map_cons, ← ih, List.map_reverse]
      rfl
    · rw [← ih]
      rfl

lemma dropEnd_map (s : List α) : dropEnd (s.map f) = (dropEnd s).map f := by
  rw [dropEnd, dropEnd, ← List.map_reverse, List.dropWhile_map, h.isBlank_comp, List.map_reverse]

lemma placeWords_map (width : ℕ) (line : List α) (words : List (List α)) :
    placeWords width (line.map f) (words.map (List.map f)) =
      (placeWords width line words).map (List.map f) := by
  induction words generalizing line with
  | nil => rfl
  | cons word rest ih =>
    have hparts : (chopCells width (word.map f)) = (chopCells width word).map (List.map f) :=
      h.chopCellsFrom_map width 0 [] word
    have hempty : List.isEmpty ∘ List.map f = List.isEmpty := funext fun s => List.isEmpty_map
    have hlast (parts : List (List α)) :
        (parts.map (List.map f)).getLast?.getD [] = (parts.getLast?.getD []).map f := by
      rw [List.getLast?_map]
      cases parts.getLast? <;> rfl
    rw [List.map_cons, placeWords, placeWords]
    simp only [h.dropEnd_map, h.cells_map, hparts, List.isEmpty_map, ← List.map_append, ih]
    -- the word fits on the line, is wider than any line, or starts the next one
    by_cases hfits : cells line + cells (dropEnd word) ≤ width
    · rw [if_pos hfits, if_pos hfits]
    rw [if_neg hfits, if_neg hfits]
    by_cases hwide : width < cells (dropEnd word)
    · rw [if_pos hwide, if_pos hwide]
      cases line.isEmpty with
      | true =>
        simp only [if_true, List.dropWhile_map, hempty, hlast, ih, List.nil_append,
          ← List.map_dropLast, List.map_append]
      | false =>
        simp only [Bool.false_eq_true, if_false, hlast, ih, ← List.map_dropLast, List.map_append,
          List.map_cons, List.map_nil]
    · rw [if_neg hwide, if_neg hwide]
      cases line.isEmpty <;> simp

lemma breakLine_map (width : ℕ) (line : List α) :
    breakLine width (line.map f) = (breakLine width line).map (List.map f) := by
  rw [breakLine, breakLine, h.blankedWords_map]
  cases blankedWords line with
  | nil => rfl
  | cons word words => exact h.placeWords_map width [] (word :: words)

/-! ### Cutting lines -/

lemma cutBetween_map (width : ℕ) (line : List α) (fuel low high : ℕ) :
    cutBetween width (line.map f) fuel low high = (cutBetween width line fuel low high).map f := by
  induction fuel generalizing low high with
  | zero => rfl
  | succ fuel ih =>
    rw [cutBetween, cutBetween]
    simp only [← List.map_take, List.getLast?_map]
    cases (line.take ((low + high) / 2 + 1)).getLast? with
    | none => rfl
    | some last =>
      simp only [Option.map_some, h.cells_map, h.char, ih]
      split_ifs
      · rw [← List.map_dropLast, h.blank, List.map_append, List.map_singleton]
      all_goals rfl

lemma cutCells_map (width : ℕ) (line : List α) :
    cutCells width (line.map f) = (cutCells width line).map f := by
  rw [cutCells, cutCells, h.cells_map, List.length_map, h.cutBetween_map]
  split <;> rfl

/-- A text that wraps. -/
theorem flow_map (width : ℕ) (s : List α) :
    flow width (s.map f) = (flow width s).map (List.map f) := by
  rw [flow, flow, h.splitLines_map]
  split
  · rfl
  · simp only [List.flatMap_map, List.map_flatMap, List.map_map, Function.comp_def,
      h.expandTabs_map, h.breakLine_map, h.cropBlanks_map, h.cutCells_map]

end ItemMap

/-! ### Texts whose styles have no fault -/

namespace Markup

/-- A character outside of all faulty styles. -/
def soundCell (c : Char) : Cell := ⟨c, none⟩

lemma itemMap_soundCell : ItemMap soundCell := ⟨fun _ => rfl, fun _ => rfl⟩

namespace Rendered

variable {rendered : Rendered}

lemma cells_of_faulty (h : rendered.faulty = []) :
    rendered.cells = rendered.text.map soundCell := by
  have hpairs (s : List Char) (start : ℕ) :
      (s.zipIdx start).map (fun entry : Char × ℕ => soundCell entry.1) = s.map soundCell := by
    change (s.zipIdx start).map (soundCell ∘ Prod.fst) = _
    rw [← List.map_map, List.zipIdx_map_fst]
  rw [cells, h]
  exact hpairs rendered.text 0

/-- The lines of a text whose styles have no fault are those of its characters. -/
lemma lines_of_faulty (h : rendered.faulty = []) {layout : List Cell → List (List Cell)}
    {plain : List Char → List (List Char)}
    (hlayout : ∀ s, layout (s.map soundCell) = (plain s).map (List.map soundCell)) :
    rendered.lines layout = .ok (plain rendered.text) := by
  have hlate : rendered.lateFault? (layout rendered.cells) = none := by
    rw [lateFault?, h, cells_of_faulty h, hlayout]
    split
    · rfl
    · rw [List.findSome?_eq_none_iff]
      intro cell hcell
      rw [← List.map_flatten] at hcell
      obtain ⟨c, -, rfl⟩ := List.mem_map.1 hcell
      rfl
  have hchars : ((plain rendered.text).map (List.map soundCell)).map (List.map Cell.char) =
      plain rendered.text := by
    simp [Function.comp_def, soundCell]
  rw [lines, hlate, cells_of_faulty h, hlayout]
  exact congrArg Except.ok hchars

theorem lines_flow (h : rendered.faulty = []) (width : ℕ) :
    rendered.lines (flow width) = .ok (flow width rendered.text) :=
  lines_of_faulty h (itemMap_soundCell.flow_map width)

theorem lines_unwrapped (h : rendered.faulty = []) (width : ℕ) :
    rendered.lines (unwrapped width) = .ok (unwrapped width rendered.text) :=
  lines_of_faulty h (itemMap_soundCell.unwrapped_map width)

end Rendered

end Markup

end RuleFixtures.Console
