import RuleFixtures.Proofs.Console.EscapedLine
import RuleFixtures.Proofs.Json.Order
import RuleFixtures.Rules.ReportText

/-!
The report on rules as a text.

A report whose names, expressions and label names are texts is written line by line, and each line
shows an escaped text.

* `RuleReport.escapedLines` are the lines on the rules of one name; `RuleReport.lines_eq`: they are
  what is written.
* `InspectionReport.output_iff`: a report is always written to its end, and it is written character
  for character exactly if each of its lines is.
-/

namespace RuleFixtures

open Console

/-! ### Writing without faults -/

lemma writtenUntilFault_ok (texts : List String) :
    writtenUntilFault (texts.map .ok) = (String.join texts, .ok ()) := by
  induction texts with
  | nil => rfl
  | cons text texts ih => rw [List.map_cons, writtenUntilFault, ih, String.join_cons]

namespace RuleReport

/-! ### The lines of a report -/

lemma isStyle_bold : Markup.IsStyle "bold" :=
  ⟨by decide, ⟨'b', by decide, by decide, by decide, by decide⟩, by simp; decide,
    by decide +kernel, by decide +kernel⟩

lemma isStyle_muted : Markup.IsStyle "muted" :=
  ⟨by decide, ⟨'m', by decide, by decide, by decide, by decide⟩, by simp; decide,
    by decide +kernel, by decide +kernel⟩

/-- The frame of a name. -/
def nameFrame : Frame where
  lead := ""
  style := "bold"
  finish := ":"
  isStyle := isStyle_bold
  style_unbroken := by simp; decide
  finish_unbroken := by simp; decide
  lead_unmarked := by simp [Markup.IsUnmarked]
  finish_unmarked := by simp [Markup.IsUnmarked]
  lead_literal := ⟨by decide, by simp [replaceEmoji], by simp⟩
  finish_literal := ⟨by decide, by simp [replaceEmoji], by simp; decide⟩

/-- The frame of the selectors without a name. -/
def unnamedFrame : Frame where
  lead := "    "
  style := "muted"
  finish := ""
  isStyle := isStyle_muted
  style_unbroken := by simp; decide
  finish_unbroken := by simp
  lead_unmarked := by simp [Markup.IsUnmarked]
  finish_unmarked := by simp [Markup.IsUnmarked]
  lead_literal := ⟨by decide, replaceEmoji_of_notMem (by decide), by simp; decide⟩
  finish_literal := ⟨by decide, by simp [replaceEmoji], by simp⟩

/-- Labels in the order of their names, which are texts. -/
def sortedLabels (labels : Labels) : List (Json × Json) :=
  labels.entries.mergeSort fun a b => decide (a.1.display ≤ b.1.display)

/-- Names with commas between them. -/
def listed (names : List String) : String := String.intercalate ", " names

/-- The lines on a definition. -/
def escapedQuery (query : RuleQuery) : List EscapedLine :=
  .plain ("    expr: " ++ query.expression.display) ::
    if query.labels.isEmpty then []
    else [.plain ("    labels: " ++ listed ((sortedLabels query.labels).map fun (name, value) =>
      name.display ++ "=" ++ value.display))]

/-- The lines on the rules of one name. -/
def escapedLines (report : RuleReport) : List EscapedLine :=
  .styled nameFrame report.name.display :: .plain "  queries:" ::
    report.queries.flatMap escapedQuery ++
    [.plain "  metrics:", .plain ("    direct: " ++ listed report.direct),
     .plain ("    indirect: " ++ listed report.indirect)] ++
    if report.unnamed.isEmpty then []
    else [.styled unnamedFrame ("unnamed: " ++ listed report.unnamed)]

/-- Reports whose names, expressions and label names are texts. -/
structure OfTexts (report : RuleReport) : Prop where
  name : ∃ s, report.name = .text s
  expressions : ∀ query ∈ report.queries, ∃ s, query.expression = .text s
  labelNames : ∀ query ∈ report.queries, ∀ label ∈ query.labels.entries, ∃ s, label.1 = .text s

section Lines

variable [Platform] (width : ℕ)

lemma line_markup (shown : EscapedLine) :
    line width shown.markup = .ok (String.ofList (shown.written width)) := by
  rw [line, shown.message_line]
  rfl

/-- A text behind a fixed start of the line. -/
lemma line_append_escape {start : String} (h : Markup.IsUnmarked start.toList) (text : String) :
    line width (start ++ Markup.escape text) =
      .ok (String.ofList ((EscapedLine.plain (start ++ text)).written width)) := by
  rw [← line_markup, EscapedLine.markup, Markup.escape_append h]

omit [Platform] in
lemma labelText_eq {labels : Labels} (h : ∀ label ∈ labels.entries, ∃ s, label.1 = .text s) :
    labelText labels = .ok (listed ((sortedLabels labels).map fun (name, value) =>
      name.display ++ "=" ++ value.display)) := by
  have htext : ∀ label ∈ labels.entries, label.1 = .text label.1.display := by
    intro label hlabel
    obtain ⟨s, hs⟩ := h label hlabel
    rw [hs]
    rfl
  rw [labelText, Json.sortBy_of_text (fun label => label.1.display) htext]
  rfl

lemma queryLines_eq {query : RuleQuery} (hexpression : ∃ s, query.expression = .text s)
    (hlabels : ∀ label ∈ query.labels.entries, ∃ s, label.1 = .text s) :
    queryLines width query =
      (escapedQuery query).map fun shown => .ok (String.ofList (shown.written width)) := by
  obtain ⟨s, hs⟩ := hexpression
  have hexpr : (do line width ("    expr: " ++ (← escaped query.expression))) = .ok (String.ofList
      ((EscapedLine.plain ("    expr: " ++ query.expression.display)).written width)) := by
    rw [hs]
    exact line_append_escape width (by simp [Markup.IsUnmarked]) s
  rw [queryLines, escapedQuery, hexpr, labelText_eq hlabels]
  split
  · rfl
  · refine congrArg₂ List.cons rfl (congrArg (fun shown => [shown]) ?_)
    exact line_append_escape width (by simp [Markup.IsUnmarked]) _

omit [Platform] in
lemma markup_nameFrame (name : String) :
    (EscapedLine.styled nameFrame name).markup = "[bold]" ++ Markup.escape name ++ "[/bold]:" := by
  rw [← String.toList_inj]
  simp [EscapedLine.markup, nameFrame]

omit [Platform] in
lemma markup_unnamedFrame (names : List String) :
    (EscapedLine.styled unnamedFrame ("unnamed: " ++ listed names)).markup =
      "    [muted]unnamed: " ++ escapedList names ++ "[/muted]" := by
  rw [EscapedLine.markup, Markup.escape_append (by simp [Markup.IsUnmarked]), ← String.toList_inj]
  simp [unnamedFrame, escapedList, listed]

/-- What is written are the lines, and none of them is at fault. -/
lemma lines_eq {report : RuleReport} (h : report.OfTexts) :
    report.lines width =
      report.escapedLines.map fun shown => .ok (String.ofList (shown.written width)) := by
  obtain ⟨s, hs⟩ := h.name
  have hname : (do line width ("[bold]" ++ (← escaped report.name) ++ "[/bold]:")) =
      .ok (String.ofList ((EscapedLine.styled nameFrame report.name.display).written width)) := by
    rw [hs, ← line_markup, markup_nameFrame]
    rfl
  -- the headings are not escaped, but have nothing in them that would be
  have hfixed (text : String) (htext : Markup.IsUnmarked text.toList) :
      line width text = .ok (String.ofList ((EscapedLine.plain text).written width)) := by
    rw [← line_markup, EscapedLine.markup, Markup.escape_of_unmarked htext]
  have hqueries : report.queries.flatMap (queryLines width) =
      (report.queries.flatMap escapedQuery).map fun shown =>
        .ok (String.ofList (shown.written width)) := by
    rw [List.map_flatMap]
    exact List.flatMap_congr fun query hquery =>
      queryLines_eq width (h.expressions query hquery) (h.labelNames query hquery)
  rw [lines, escapedLines, hname, hqueries, hfixed "  queries:" (by simp [Markup.IsUnmarked]),
    hfixed "  metrics:" (by simp [Markup.IsUnmarked]), escapedList, escapedList,
    line_append_escape width (by simp [Markup.IsUnmarked]),
    line_append_escape width (by simp [Markup.IsUnmarked]), ← markup_unnamedFrame, line_markup]
  split <;> simp [listed]

end Lines

end RuleReport

namespace InspectionReport

/-- A title in its box, as wide as the console. -/
def boxed (width : ℕ) (text : String) : List Char :=
  if width = 0 then []
  else
    let inner :=
      if width ≤ 4 then [] else (flow (width - 4) text.toList).map (Message.boxLine width)
    ([] :: Message.edge width '╭' '╮' :: inner ++ [Message.edge width '╰' '╯']).flatMap fun line =>
      line ++ ['\n']

/-- A title in which nothing is marked up or replaced is written in its box. -/
lemma title_eq [Platform] (width : ℕ) {text : String} (hmarked : Markup.IsUnmarked text.toList)
    (hliteral : Markup.Literal text.toList) :
    title width text = .ok (String.ofList (boxed width text)) := by
  obtain ⟨rendered, hrendered, htext, hfaulty⟩ :=
    Markup.render_unmarked RuleReport.isStyle_bold hmarked hliteral
  have hmarkup : "[" ++ "bold" ++ "]" ++ text ++ "[/" ++ "bold" ++ "]" =
      "[bold]" ++ text ++ "[/bold]" := by
    rw [← String.toList_inj]
    simp
  rw [hmarkup] at hrendered
  -- the style of the title shows in no character, so the box is laid out from the text
  have hbox : Message.boxText width text = .ok (if width ≤ 4 then []
      else (flow (width - 4) text.toList).map (Message.boxLine width)) := by
    rw [Message.boxText]
    split
    · rfl
    · rw [hrendered]
      change (rendered.lines (flow (width - 4))).map (List.map (Message.boxLine width)) = _
      rw [Markup.Rendered.lines_flow hfaulty, htext]
      rfl
  rw [title, Message.header, hbox, boxed]
  dsimp only [bind, Except.bind]
  by_cases hwidth : width = 0
  · rw [if_pos hwidth, if_pos hwidth]
    rfl
  · rw [if_neg hwidth, if_neg hwidth]
    rfl

lemma title_recording [Platform] (width : ℕ) :
    title width "Recording rules" = .ok (String.ofList (boxed width "Recording rules")) :=
  title_eq width (by simp [Markup.IsUnmarked])
    ⟨by decide, replaceEmoji_of_notMem (by decide), by simp; decide⟩

lemma title_alerting [Platform] (width : ℕ) :
    title width "Alerting rules" = .ok (String.ofList (boxed width "Alerting rules")) :=
  title_eq width (by simp [Markup.IsUnmarked])
    ⟨by decide, replaceEmoji_of_notMem (by decide), by simp; decide⟩

/-- Reports of which all rules are of texts. -/
def OfTexts (report : InspectionReport) : Prop :=
  ∀ rule ∈ report.recordingRules ++ report.alertingRules, rule.OfTexts

/-- The lines between the titles. -/
def escapedLines (report : InspectionReport) : List EscapedLine :=
  (report.recordingRules ++ report.alertingRules).flatMap RuleReport.escapedLines

/-- A report with its titles, when each line is given as a text. -/
def layout (width : ℕ) (report : InspectionReport) (asText : EscapedLine → List Char) : List Char :=
  boxed width "Recording rules" ++
    (report.recordingRules.flatMap RuleReport.escapedLines).flatMap asText ++
    (boxed width "Alerting rules" ++
      (report.alertingRules.flatMap RuleReport.escapedLines).flatMap asText)

/-- Texts of as many lines for each line give the same report only if they are the same. -/
lemma layout_eq_iff (width : ℕ) (report : InspectionReport) {f g : EscapedLine → List Char}
    (h : ∀ line, SameLines (f line) (g line)) :
    report.layout width f = report.layout width g ↔
      ∀ line ∈ report.escapedLines, f line = g line := by
  constructor
  · intro heq
    rw [layout, layout, List.append_assoc, List.append_assoc] at heq
    obtain ⟨hrecording, hrest⟩ := (SameLines.flatMap fun line _ => h line).append_inj
      (List.append_cancel_left heq)
    have halerting := List.append_cancel_left hrest
    rw [escapedLines, List.flatMap_append, List.forall_mem_append]
    exact ⟨SameLines.flatMap_inj (fun line _ => h line) hrecording,
      SameLines.flatMap_inj (fun line _ => h line) halerting⟩
  · intro hsame
    rw [escapedLines, List.flatMap_append, List.forall_mem_append] at hsame
    rw [layout, layout, List.flatMap_congr hsame.1, List.flatMap_congr hsame.2]

/-- Where no line is written, the report is as it should be just if it has no lines. -/
lemma layout_nil_eq_iff (width : ℕ) (report : InspectionReport) (g : EscapedLine → List Char) :
    report.layout width (fun _ => []) = report.layout width g ↔
      ∀ line ∈ report.escapedLines, [] = g line := by
  constructor
  · intro heq
    have hnone (lines : List EscapedLine) : (lines.flatMap fun _ => []) = ([] : List Char) :=
      List.flatMap_eq_nil_iff.2 fun _ _ => rfl
    have hlength := congrArg List.length heq
    simp only [layout, List.length_append, hnone, List.length_nil] at hlength
    rw [escapedLines, List.flatMap_append, List.forall_mem_append]
    refine ⟨fun line hline => ?_, fun line hline => ?_⟩
    · have hempty := List.length_eq_zero_iff.1
        (by omega : ((report.recordingRules.flatMap RuleReport.escapedLines).flatMap g).length = 0)
      exact (List.flatMap_eq_nil_iff.1 hempty line hline).symm
    · have hempty := List.length_eq_zero_iff.1
        (by omega : ((report.alertingRules.flatMap RuleReport.escapedLines).flatMap g).length = 0)
      exact (List.flatMap_eq_nil_iff.1 hempty line hline).symm
  · intro hempty
    rw [escapedLines, List.flatMap_append, List.forall_mem_append] at hempty
    rw [layout, layout, List.flatMap_congr hempty.1, List.flatMap_congr hempty.2]

/-- A report of texts is written to its end. -/
lemma written_output [Platform] (width : ℕ) {report : InspectionReport} (h : report.OfTexts) :
    writtenUntilFault (report.output width) =
      (String.ofList (report.layout width (EscapedLine.written width)), .ok ()) := by
  -- lines that are joined are the concatenation of their characters
  have hjoin (lines : List EscapedLine) :
      String.join (lines.map fun line => String.ofList (line.written width)) =
        String.ofList (lines.flatMap (EscapedLine.written width)) := by
    induction lines with
    | nil => rfl
    | cons line lines ih =>
      rw [List.map_cons, String.join_cons, ih, List.flatMap_cons, String.ofList_append]
  have hlines {rules : List RuleReport} (hrules : ∀ rule ∈ rules, rule.OfTexts) :
      rules.flatMap (RuleReport.lines width) =
        ((rules.flatMap RuleReport.escapedLines).map fun line =>
          String.ofList (line.written width)).map .ok := by
    rw [List.map_map, List.map_flatMap]
    exact List.flatMap_congr fun rule hrule => RuleReport.lines_eq width (hrules rule hrule)
  obtain ⟨hrecording, halerting⟩ := List.forall_mem_append.1 h
  rw [output, title_recording, title_alerting, hlines hrecording, hlines halerting,
    List.cons_append, ← List.map_cons, ← List.map_append, ← List.map_cons, writtenUntilFault_ok,
    String.join_cons, String.join_append, String.join_cons, hjoin, hjoin, layout]
  simp only [String.ofList_append, String.append_assoc]

/-- On a console of any width a report of texts is written to its end, and it is written character
for character exactly if each of its lines is. -/
theorem output_iff [Platform] (width : ℕ) (report : InspectionReport) (h : report.OfTexts) :
    writtenUntilFault (report.output width) =
        (String.ofList (report.layout width (EscapedLine.written width)), .ok ()) ∧
      (report.layout width (EscapedLine.written width) =
          report.layout width (fun line => line.verbatim ++ ['\n']) ↔
        ∀ line ∈ report.escapedLines, line.PrintsAsIs width) := by
  refine ⟨written_output width h, ?_⟩
  have hline (line : EscapedLine) :
      line.written width = line.verbatim ++ ['\n'] ↔ line.PrintsAsIs width :=
    line.written_eq_iff width
  rcases width.eq_zero_or_pos with rfl | hwidth
  · exact (report.layout_nil_eq_iff 0 _).trans (forall₂_congr fun line _ => hline line)
  · rw [report.layout_eq_iff width (EscapedLine.sameLines_written hwidth)]
    exact forall₂_congr fun line _ => hline line

/-- A report on one recording rule, with two colons in its name. -/
def pictured : InspectionReport where
  alertingRules := []
  recordingRules := [⟨.text "job:up:sum", [⟨.text "sum(up)", .empty⟩], ["up"], [], []⟩]

lemma ofTexts_pictured : pictured.OfTexts := by
  intro rule hrule
  obtain rfl : rule = ⟨.text "job:up:sum", [⟨.text "sum(up)", .empty⟩], ["up"], [], []⟩ := by
    simpa [pictured] using hrule
  refine ⟨⟨_, rfl⟩, fun query hquery => ?_, fun query hquery label hlabel => ?_⟩
  · exact ⟨"sum(up)", by rw [List.mem_singleton.1 hquery]⟩
  · rw [List.mem_singleton.1 hquery] at hlabel
    exact absurd hlabel List.not_mem_nil

theorem output_iff_pictured :
    pictured.OfTexts ∧
      writtenUntilFault (pictured.output 80) =
        (String.ofList (pictured.layout 80 (EscapedLine.written 80)), .ok ()) ∧
      (pictured.layout 80 (EscapedLine.written 80) =
          pictured.layout 80 (fun line => line.verbatim ++ ['\n']) ↔
        ∀ line ∈ pictured.escapedLines, line.PrintsAsIs 80) :=
  ⟨ofTexts_pictured, output_iff 80 pictured ofTexts_pictured⟩

/-- The code `:up:` of a name is replaced by a picture. -/
lemma written_pictured :
    (EscapedLine.styled RuleReport.nameFrame "job:up:sum").written 80 = "job🆙sum:\n".toList := by
  have hcut : (EscapedLine.styled RuleReport.nameFrame "job:up:sum").cut =
      ⟨[], "job:up:sum".toList, 0⟩ :=
    Markup.cut_unmarked (by simp [Markup.IsUnmarked, EscapedLine.text])
  have hends : (EscapedLine.styled RuleReport.nameFrame "job:up:sum").EndsAsIs := by
    rw [EscapedLine.EndsAsIs, hcut]
    exact Nat.zero_le 1
  -- the name between two colons is the code of a picture
  have hcode : replaceEmoji "job:up:sum".toList = "job🆙sum".toList := by
    have hup : replaceEmoji (':' :: ("up".toList ++ ':' :: "sum".toList)) = _ :=
      replaceEmoji_code (by simp; decide)
    have hpicture : emoji? "up".toList = some ['🆙'] := by decide
    rw [hpicture, replaceEmoji_of_notMem (s := "sum".toList) (by decide)] at hup
    simpa [replaceEmoji_cons] using hup
  have hshown : Markup.shown "job:up:sum".toList = "job🆙sum".toList := by
    rw [Markup.shown, Markup.dropSlash_eq_self_iff.2 (by decide), hcode]
    decide
  have hvisible : (EscapedLine.styled RuleReport.nameFrame "job:up:sum").visible =
      "job🆙sum:".toList := by
    rw [EscapedLine.visible, hends.ending_eq, hcut, Markup.Cut.pieces, List.nil_append,
      List.flatMap_singleton, hshown]
    decide
  rw [EscapedLine.written, hvisible]
  decide

theorem name_pictured :
    let name := EscapedLine.styled RuleReport.nameFrame "job:up:sum"
    name ∈ pictured.escapedLines ∧ name.verbatim = "job:up:sum:".toList ∧
      name.written 80 = "job🆙sum:\n".toList ∧
      writtenUntilFault (pictured.output 80) ≠
        (String.ofList (pictured.layout 80 fun line => line.verbatim ++ ['\n']), .ok ()) := by
  have hmem : EscapedLine.styled RuleReport.nameFrame "job:up:sum" ∈ pictured.escapedLines := by
    simp [pictured, escapedLines, RuleReport.escapedLines, Json.display]
  refine ⟨hmem, by decide, written_pictured, fun h => ?_⟩
  rw [written_output 80 ofTexts_pictured, Prod.mk.injEq, String.ofList_inj,
    pictured.layout_eq_iff 80 (EscapedLine.sameLines_written (by decide))] at h
  have hname := h.1 _ hmem
  rw [written_pictured] at hname
  exact absurd hname (by decide)

end InspectionReport

end RuleFixtures
