import RuleFixtures.Fixtures.TestFile
import RuleFixtures.Proofs.Json.Written
import RuleFixtures.Proofs.Rules.ReportText

/-!
The names of rules in what is printed.

* `RuleReport.Printed`: the text on the rules of one name starts with the line on the name, which
  is a text.
* `InspectionReport.Shows` says where the names stand in what is printed: in front of the text on
  the rules, or in the document that is read from it.
* `InspectionReport.shows_output`, `InspectionReport.shows_document`: what is printed of a report
  shows its names.
* `TestFile.testedExpressions_toJson`: the document of fixtures tests their expressions.
-/

namespace RuleFixtures

open Console

/-! ### Output in parts -/

/-- Output that is written to its end starts with a text. -/
lemma exists_of_writtenUntilFault_cons {item : Except Fault String} {rest : Output} {text : String}
    (h : writtenUntilFault (item :: rest) = (text, .ok ())) :
    ∃ first more, item = .ok first ∧ writtenUntilFault rest = (more, .ok ()) ∧
      text = first ++ more := by
  cases item with
  | error fault => cases h
  | ok first =>
    rcases hmore : writtenUntilFault rest with ⟨more, result⟩
    rw [writtenUntilFault, hmore] at h
    cases h
    exact ⟨first, more, rfl, rfl, rfl⟩

/-- Output that is written to its end has parts that are. -/
lemma exists_of_writtenUntilFault_append {front rest : Output} {text : String}
    (h : writtenUntilFault (front ++ rest) = (text, .ok ())) :
    ∃ first more, writtenUntilFault front = (first, .ok ()) ∧
      writtenUntilFault rest = (more, .ok ()) ∧ text = first ++ more := by
  induction front generalizing text with
  | nil => exact ⟨"", text, rfl, h, String.empty_append.symm⟩
  | cons item front ih =>
    obtain ⟨first, others, rfl, hothers, rfl⟩ := exists_of_writtenUntilFault_cons h
    obtain ⟨second, more, hsecond, hmore, rfl⟩ := ih hothers
    exact ⟨first ++ second, more, by rw [writtenUntilFault, hsecond], hmore,
      String.append_assoc.symm⟩

/-! ### Names in front of the text on their rules -/

namespace RuleReport

variable [Platform] (width : ℕ)

/-- The text on the rules of one name: the line on the name, and what is written on the rules. -/
def Printed (report : RuleReport) (text : String) : Prop :=
  ∃ name details, report.name = .text name ∧
    writtenUntilFault (report.lines width).tail = (details, .ok ()) ∧
    text = String.ofList ((EscapedLine.styled nameFrame name).written width) ++ details

lemma printed_of_lines {report : RuleReport} {text : String}
    (h : writtenUntilFault (report.lines width) = (text, .ok ())) : report.Printed width text := by
  rw [lines] at h
  obtain ⟨heading, details, hheading, hdetails, rfl⟩ := exists_of_writtenUntilFault_cons h
  cases hname : report.name with
  | text name =>
    refine ⟨name, details, hname, hdetails, ?_⟩
    rw [hname] at hheading
    change line width ("[bold]" ++ Markup.escape name ++ "[/bold]:") = _ at hheading
    rw [← markup_nameFrame, line_markup] at hheading
    rw [Except.ok.inj hheading]
  -- a name of another kind ends the report
  | _ =>
    rw [hname] at hheading
    cases hheading

lemma exists_printed {reports : List RuleReport} {text : String}
    (h : writtenUntilFault (reports.flatMap (lines width)) = (text, .ok ())) :
    ∃ texts, List.Forall₂ (Printed width) reports texts ∧ text = String.join texts := by
  induction reports generalizing text with
  | nil =>
    cases h
    exact ⟨[], .nil, rfl⟩
  | cons report reports ih =>
    rw [List.flatMap_cons] at h
    obtain ⟨first, more, hfirst, hmore, rfl⟩ := exists_of_writtenUntilFault_append h
    obtain ⟨texts, htexts, rfl⟩ := ih hmore
    exact ⟨first :: texts, .cons (printed_of_lines width hfirst) htexts,
      (String.join_cons ..).symm⟩

end RuleReport

/-! ### Names in a document -/

/-- The names of the rules that a document lists under a heading. -/
def Json.namesUnder (heading : String) (document : Json) : Option (List Json) :=
  match document.member? heading with
  | some (.list rules) => rules.mapM fun rule => rule.member? "name"
  | _ => none

/-- The expressions that the fixtures in a document test. -/
def Json.testedExpressions (document : Json) : Option (List Json) :=
  match document.member? "tests" with
  | some (.list groups) => groups.mapM fun group =>
    match group.member? "promql_expr_test" with
    | some (.list [test]) => test.member? "expr"
    | _ => none
  | _ => none

lemma RuleReport.mapM_member?_name (reports : List RuleReport) :
    (reports.map RuleReport.toJson).mapM (fun rule => rule.member? "name") =
      some (reports.map RuleReport.name) := by
  induction reports with
  | nil => rfl
  | cons report reports ih =>
    rw [List.map_cons, List.mapM_cons, ih]
    rfl

/-- The document of fixtures tests their expressions. -/
lemma TestFile.testedExpressions_toJson (file : TestFile) :
    file.toJson.testedExpressions = some (file.tests.map fun fixture => fixture.test.expr) := by
  obtain ⟨tests, interval, ruleFiles⟩ := file
  change (tests.map Fixture.toJson).mapM _ = _
  induction tests with
  | nil => rfl
  | cons fixture tests ih =>
    rw [List.map_cons, List.mapM_cons, ih]
    rfl

namespace InspectionReport

/-- What is printed shows the names of the rules. In a text the recording rules come first, and each
name in front of what is written on its rules; a document lists the names under the headings. -/
inductive Shows [Platform] (width : ℕ) (report : InspectionReport) : Bool → String → Prop
  | text {recording alerting : List String}
    (hrecording : List.Forall₂ (RuleReport.Printed width) report.recordingRules recording)
    (halerting : List.Forall₂ (RuleReport.Printed width) report.alertingRules alerting) :
    Shows width report false (String.ofList (boxed width "Recording rules") ++
      String.join recording ++
      (String.ofList (boxed width "Alerting rules") ++ String.join alerting))
  | document {printed : String}
    (hrecording : report.toJson.namesUnder "recordingRules" =
      some (report.recordingRules.map RuleReport.name))
    (halerting : report.toJson.namesUnder "alertingRules" =
      some (report.alertingRules.map RuleReport.name))
    (hprinted : printed = report.toJson.indented ++ "\n")
    (hread : report.toJson.isPlain = true → ∀ room, report.toJson.depth ≤ room →
      Json.readList room printed.toList = .ok report.toJson) :
    Shows width report true printed

variable [Platform] (width : ℕ) (report : InspectionReport)

/-- A report that is written to its end shows its names. -/
lemma shows_output {report : InspectionReport} {text : String}
    (h : writtenUntilFault (report.output width) = (text, .ok ())) :
    report.Shows width false text := by
  rw [output, title_recording, title_alerting] at h
  obtain ⟨first, second, hfirst, hsecond, rfl⟩ := exists_of_writtenUntilFault_append h
  obtain ⟨title, more, htitle, hmore, rfl⟩ := exists_of_writtenUntilFault_cons hfirst
  obtain ⟨title', more', htitle', hmore', rfl⟩ := exists_of_writtenUntilFault_cons hsecond
  cases htitle
  cases htitle'
  obtain ⟨recording, hrecording, rfl⟩ := RuleReport.exists_printed width hmore
  obtain ⟨alerting, halerting, rfl⟩ := RuleReport.exists_printed width hmore'
  exact .text hrecording halerting

/-- A document of a report shows its names. -/
lemma shows_document : report.Shows width true (report.toJson.indented ++ "\n") := by
  refine .document ?_ ?_ rfl fun hplain room hroom => Json.readList_indented hplain hroom
  · exact RuleReport.mapM_member?_name report.recordingRules
  · exact RuleReport.mapM_member?_name report.alertingRules

end InspectionReport

end RuleFixtures
