import RuleFixtures.Console.Message
import RuleFixtures.Proofs.Console.Escape
import RuleFixtures.Proofs.Console.Unwrapped

/-!
Lines that show an escaped text.

Such a line is written to the console without wrapping, in the style of its frame or in none.

* `EscapedLine.message_line`: the line is always written, and no tag of its text is obeyed.
* `EscapedLine.PrintsAsIs` lists what a text must be free of to be seen character for character;
  `EscapedLine.written_eq_iff`: it is that, and nothing less.
-/

namespace RuleFixtures.Console

open Markup

/-! ### Frames -/

/-- A style with the texts around it. -/
structure Frame where
  lead : String
  style : String
  finish : String
  isStyle : IsStyle style
  style_unbroken : ∀ c ∈ style.toList, Text.isBlank c = false
  finish_unbroken : ∀ c ∈ finish.toList, Text.isBlank c = false
  lead_unmarked : IsUnmarked lead.toList
  finish_unmarked : IsUnmarked finish.toList
  lead_literal : Literal lead.toList
  finish_literal : Literal finish.toList

/-- A line with an escaped text. -/
inductive EscapedLine where
  | plain (text : String)
  | styled (frame : Frame) (text : String)

namespace EscapedLine

/-- The text that is escaped. -/
def text : EscapedLine → String
  | plain text => text
  | styled _ text => text

/-- What stands in front of the text. -/
def lead : EscapedLine → List Char
  | plain _ => []
  | styled frame _ => frame.lead.toList

/-- What stands behind the text. -/
def finish : EscapedLine → List Char
  | plain _ => []
  | styled frame _ => frame.finish.toList

/-- The line as markup. -/
def markup : EscapedLine → String
  | plain text => escape text
  | styled frame text =>
    frame.lead ++ "[" ++ frame.style ++ "]" ++ escape text ++ "[/" ++ frame.style ++ "]" ++
      frame.finish

/-- The line as it should be seen. -/
def verbatim (line : EscapedLine) : List Char := line.lead ++ line.text.toList ++ line.finish

/-- The cut of the text. -/
def cut (line : EscapedLine) : Cut := Markup.cut line.text.toList

/-- What is seen of the backslashes at the end of the text. In front of a closing tag that is half
of them, and of an odd number the tag as well. -/
def ending : EscapedLine → List Char
  | line@(plain _) => List.replicate line.cut.written '\\'
  | line@(styled frame _) =>
    List.replicate (line.cut.written / 2) '\\' ++
      if line.cut.written % 2 = 1 then shown ('[' :: '/' :: frame.style.toList ++ [']']) else []

/-- What is seen of the line. -/
def visible (line : EscapedLine) : List Char :=
  line.lead ++ (line.cut.pieces.flatMap shown ++ line.ending) ++ line.finish

/-- The line as it is written on a console of a width. -/
def written (width : ℕ) (line : EscapedLine) : List Char := unwrappedText width line.visible

/-- No tag of a text is obeyed, and no style is at fault. -/
lemma render_markup [Platform] (line : EscapedLine) :
    ∃ rendered, render line.markup = .ok rendered ∧ rendered.text = line.visible ∧
      rendered.faulty = [] := by
  cases line with
  | plain text =>
    refine ⟨_, render_escape text, ?_, rfl⟩
    simp [visible, ending, cut, EscapedLine.text, lead, finish]
  | styled frame text =>
    obtain ⟨rendered, hrendered, htext, hfaulty⟩ :=
      render_styled frame.isStyle frame.lead_unmarked frame.finish_unmarked text
    refine ⟨rendered, hrendered, ?_, hfaulty⟩
    rw [htext, frame.lead_literal.shown_eq, frame.finish_literal.shown_eq]
    simp only [visible, ending, lead, finish, List.append_assoc]
    rfl

/-- A line is written whatever its text holds. -/
lemma message_line [Platform] (width : ℕ) (line : EscapedLine) :
    Message.line width line.markup = .ok (String.ofList (line.written width)) := by
  obtain ⟨rendered, hrendered, htext, hfaulty⟩ := line.render_markup
  rw [Message.line, hrendered]
  change (rendered.lines (unwrapped width)).map Message.ended = _
  rw [Rendered.lines_unwrapped hfaulty, htext]
  rfl

/-! ### What is seen as it is -/

/-- Are the backslashes at the end of the text seen, and no more than these? -/
def EndsAsIs : EscapedLine → Prop
  | line@(plain _) => line.cut.slashes ≠ 1
  | line@(styled _ _) => line.cut.slashes ≤ 1

/-- Lines that are seen character for character: nothing is replaced or left out in a piece of the
text, the backslashes at its end are seen, there are neither tabs nor white space at the end of a
long line, and the console has cells to show it. -/
structure PrintsAsIs (width : ℕ) (line : EscapedLine) : Prop where
  room : 0 < width
  literal : ∀ piece ∈ line.cut.pieces, Literal piece
  ends : line.EndsAsIs
  noTab : '\t' ∉ line.verbatim
  kept : ∀ part ∈ Text.splitAtChar '\n' line.verbatim, KeepsEnd width part

section Pieces

lemma weight_flatMap_shown_le (pieces : List (List Char)) :
    weight (pieces.flatMap shown) ≤ weight pieces.flatten := by
  induction pieces with
  | nil => rfl
  | cons piece pieces ih =>
    rw [List.flatMap_cons, List.flatten_cons, weight_append, weight_append]
    exact Nat.add_le_add (weight_shown_le piece) ih

lemma literal_of_weight_flatMap {pieces : List (List Char)}
    (h : weight pieces.flatten ≤ weight (pieces.flatMap shown)) :
    ∀ piece ∈ pieces, Literal piece := by
  induction pieces with
  | nil => simp
  | cons piece pieces ih =>
    have hfirst := weight_shown_le piece
    have hrest := weight_flatMap_shown_le pieces
    rw [List.flatMap_cons, List.flatten_cons, weight_append, weight_append] at h
    rw [List.forall_mem_cons]
    exact ⟨literal_of_weight (by omega), ih (by omega)⟩

lemma flatMap_shown_eq {pieces : List (List Char)} (h : ∀ piece ∈ pieces, Literal piece) :
    pieces.flatMap shown = pieces.flatten := by
  rw [List.flatten_eq_flatMap]
  exact List.flatMap_congr fun piece hpiece => (h piece hpiece).shown_eq

lemma count_flatMap_shown {c : Char} (hblank : Text.isBlank c = true)
    (hvisible : isHidden c = false) (pieces : List (List Char)) :
    (pieces.flatMap shown).count c = pieces.flatten.count c := by
  induction pieces with
  | nil => rfl
  | cons piece pieces ih => simp [List.count_append, count_shown hblank hvisible, ih]

end Pieces

/-! ### Backslashes at the end -/

lemma text_eq (line : EscapedLine) :
    line.text.toList = line.cut.pieces.flatten ++ List.replicate line.cut.slashes '\\' :=
  (join_cut line.text.toList).symm

lemma getLast?_pieces_ne (line : EscapedLine) :
    line.cut.pieces.flatten.getLast? ≠ some '\\' := by
  have hlast := getLast?_cutFrom_ne (by simp : [].head? ≠ some '\\') 0 line.text.toList
  simpa [Cut.pieces, cut, Markup.cut] using hlast

lemma EndsAsIs.ending_eq {line : EscapedLine} (h : line.EndsAsIs) :
    line.ending = List.replicate line.cut.slashes '\\' := by
  cases line with
  | plain text => rw [ending, Cut.written, if_neg h]
  | styled frame text =>
    have hfew : (styled frame text).cut.slashes ≤ 1 := h
    rw [ending, Cut.written]
    interval_cases (styled frame text).cut.slashes <;> rfl

lemma visible_eq (line : EscapedLine) (hliteral : ∀ piece ∈ line.cut.pieces, Literal piece)
    (hends : line.EndsAsIs) : line.visible = line.verbatim := by
  rw [visible, verbatim, text_eq, flatMap_shown_eq hliteral, hends.ending_eq]

/-- Something is seen at the end that the text does not end with. -/
def Overrides (line : EscapedLine) : Prop :=
  ∃ init tail, line.ending = init ++ tail ∧ tail ≠ [] ∧ (∀ c ∈ tail, Text.isBlank c = false) ∧
    ∀ s, line.lead ++ line.text.toList ≠ s ++ tail

/-- A backslash that stands alone at the end is seen twice. -/
lemma overrides_plain {text : String} (h : (plain text).cut.slashes = 1) :
    (plain text).Overrides := by
  refine ⟨[], ['\\', '\\'], ?_, by simp, by simp; decide, fun s hs => ?_⟩
  · rw [ending, Cut.written, if_pos h]
    rfl
  · rw [lead, List.nil_append, text_eq, h] at hs
    have hinit : (plain text).cut.pieces.flatten = s ++ ['\\'] :=
      List.append_cancel_right (hs.trans (by simp))
    exact (plain text).getLast?_pieces_ne (by rw [hinit]; simp)

/-- An odd number of backslashes makes the closing tag a text. -/
lemma overrides_styled {frame : Frame} {text : String}
    (hmany : ¬ (styled frame text).cut.slashes ≤ 1)
    (hodd : (styled frame text).cut.slashes % 2 = 1) : (styled frame text).Overrides := by
  refine ⟨List.replicate ((styled frame text).cut.slashes / 2) '\\' ++
    shown ('[' :: '/' :: frame.style.toList), [']'], ?_, by simp, by simp; decide, fun s hs => ?_⟩
  · have hshown : shown ('[' :: '/' :: frame.style.toList ++ [']']) = _ :=
      shown_append (by simp; decide) _
    rw [ending, Cut.written, if_neg (by omega), if_pos hodd, hshown, List.append_assoc]
  · obtain ⟨n, hn⟩ : ∃ n, (styled frame text).cut.slashes = n + 1 :=
      Nat.exists_eq_succ_of_ne_zero (by omega)
    have hends := congrArg List.getLast? hs
    rw [text_eq, hn, List.replicate_succ'] at hends
    simp at hends

lemma weight_slashes (n : ℕ) : weight (List.replicate n '\\') = n := by
  rw [weight_of_notMem (fun h => absurd (List.eq_of_mem_replicate h) (by decide)),
    List.length_replicate]

/-- The backslashes at the end are seen, or less of them, or something else is. -/
lemma ending_cases (line : EscapedLine) :
    line.EndsAsIs ∨ weight line.ending < line.cut.slashes ∨ line.Overrides := by
  cases line with
  | plain text =>
    by_cases hone : (plain text).cut.slashes = 1
    · exact .inr (.inr (overrides_plain hone))
    · exact .inl hone
  | styled frame text =>
    by_cases hfew : (styled frame text).cut.slashes ≤ 1
    · exact .inl hfew
    by_cases hodd : (styled frame text).cut.slashes % 2 = 1
    · exact .inr (.inr (overrides_styled hfew hodd))
    · refine .inr (.inl ?_)
      rw [ending, Cut.written, if_neg (by omega), if_neg hodd, List.append_nil, weight_slashes]
      omega

/-- Which white space a line has can be seen. -/
lemma count_visible {c : Char} (hblank : Text.isBlank c = true) (hvisible : isHidden c = false)
    (line : EscapedLine) : line.visible.count c = line.verbatim.count c := by
  have hslash (n : ℕ) : (List.replicate n '\\').count c = 0 := by
    refine List.count_eq_zero.2 fun hmem => ?_
    rw [List.eq_of_mem_replicate hmem] at hblank
    exact absurd hblank (by decide)
  -- neither a backslash nor a tag has white space in it
  have hending : line.ending.count c = 0 := by
    cases line with
    | plain text => exact hslash _
    | styled frame text =>
      have htag : ('[' :: '/' :: frame.style.toList ++ [']']).count c = 0 := by
        refine List.count_eq_zero.2 fun hmem => ?_
        have hunbroken :
            ∀ d ∈ '[' :: '/' :: frame.style.toList ++ [']'], Text.isBlank d = false := by
          simpa [or_imp, forall_and] using ⟨by decide, by decide, frame.style_unbroken, by decide⟩
        simpa [hblank] using hunbroken c hmem
      rw [ending, List.count_append, hslash]
      split
      · rw [count_shown hblank hvisible, htag]
      · rfl
  rw [visible, verbatim, line.text_eq]
  simp only [List.count_append, count_flatMap_shown hblank hvisible, hending, hslash]

/-- As many lines are written as the line has. -/
lemma sameLines_written {width : ℕ} (hwidth : 0 < width) (line : EscapedLine) :
    SameLines (line.written width) (line.verbatim ++ ['\n']) := by
  have hlines : SameLines (line.written width) (line.visible ++ ['\n']) :=
    sameLines_unwrappedText hwidth
  have hcount := count_visible (c := '\n') (by decide) (by decide) line
  refine ⟨hlines.left, by simp, ?_⟩
  rw [hlines.count, List.count_append, hcount, ← List.count_append]

lemma finish_unbroken (line : EscapedLine) : ∀ c ∈ line.finish, Text.isBlank c = false := by
  cases line with
  | plain text => simp [finish]
  | styled frame text => exact frame.finish_unbroken

lemma Overrides.written_ne {width : ℕ} (hwidth : 0 < width) {line : EscapedLine}
    (h : line.Overrides) (htab : '\t' ∉ line.visible) :
    line.written width ≠ line.verbatim ++ ['\n'] := by
  obtain ⟨init, tail, hending, hne, hunbroken, hdiffers⟩ := h
  have hvisible : line.visible = line.lead ++ (line.cut.pieces.flatMap shown ++ init) ++
      (tail ++ line.finish) := by
    rw [visible, hending]
    simp only [List.append_assoc]
  rw [hvisible] at htab
  obtain ⟨s, hs⟩ : ∃ s, unwrappedText width (_ ++ (tail ++ line.finish)) = _ :=
    exists_unwrappedText_append hwidth (mt (List.mem_append_left _) htab) (by simp [hne])
      (List.forall_mem_append.2 ⟨hunbroken, line.finish_unbroken⟩)
  intro heq
  rw [written, hvisible, hs, verbatim, ← List.append_assoc s] at heq
  exact hdiffers s (List.append_cancel_right (List.append_cancel_right heq)).symm

/-- A line is seen character for character exactly if nothing of it is replaced, left out or cut
off. -/
theorem written_eq_iff (width : ℕ) (line : EscapedLine) :
    line.written width = line.verbatim ++ ['\n'] ↔ line.PrintsAsIs width := by
  have hcount := count_visible (c := '\t') (by decide) (by decide) line
  constructor
  · intro h
    have hwidth : 0 < width := by
      refine Nat.pos_of_ne_zero ?_
      rintro rfl
      simp [written, unwrappedText_zero] at h
    have htab : '\t' ∉ line.verbatim := tab_notMem_of_unwrappedText h
    have hbare : '\t' ∉ line.visible := by
      rw [← List.count_eq_zero, hcount]
      exact List.count_eq_zero.2 htab
    -- Whatever is replaced, left out or cut off makes the line lighter, and only what is seen at
    -- its end can make up for that.
    have hpieces := weight_flatMap_shown_le line.cut.pieces
    have hweight : weight line.verbatim ≤ weight line.visible := by
      have hle := weight_le_of_sublist (unwrappedText_sublist width hbare)
      rw [← written, h, weight_append, weight_append] at hle
      exact Nat.le_of_add_le_add_right hle
    simp only [visible, verbatim, text_eq, weight_append, weight_slashes] at hweight
    obtain hends | hlighter | hoverrides := line.ending_cases
    · have hliteral : ∀ piece ∈ line.cut.pieces, Literal piece := by
        refine literal_of_weight_flatMap ?_
        rw [hends.ending_eq, weight_slashes] at hweight
        omega
      rw [written, line.visible_eq hliteral hends] at h
      exact ⟨hwidth, hliteral, hends, htab, (unwrappedText_eq_iff.1 h).2.2⟩
    · omega
    · exact absurd h (hoverrides.written_ne hwidth hbare)
  · rintro ⟨hwidth, hliteral, hends, htab, hkept⟩
    rw [written, line.visible_eq hliteral hends]
    exact unwrappedText_eq_iff.2 ⟨hwidth, htab, hkept⟩

end EscapedLine

end RuleFixtures.Console
