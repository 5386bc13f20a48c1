import RuleFixtures.Console.Message
import RuleFixtures.Rules.Report

/-!
The report on rules as it is shown on a console of a given width.

The recording rules come first, then the alerting rules, each under a title in a box. Names,
expressions, labels, metrics and selectors are escaped, so that no markup in them is obeyed.

* `RuleReport.lines` lists what is written for a rule, `InspectionReport.output` what is written
  for all of them; an item that is a fault ends the output.
* `writtenUntilFault` gives the text in front of the first fault, and the fault.
-/

namespace RuleFixtures

/-- Output in order; an item that is a fault ends it. -/
abbrev Output := List (Except Fault String)

/-- The text in front of the first fault, and that fault if there is one. -/
def writtenUntilFault : Output → String × Except Fault Unit
  | [] => ("", .ok ())
  | .ok text :: rest =>
    let (more, result) := writtenUntilFault rest
    (text ++ more, result)
  | .error fault :: _ => ("", .error fault)

namespace RuleReport

variable [Platform]

/-- A line of a report. -/
def line (width : Nat) (markup : String) : Except Fault String :=
  (Console.Message.line width markup).mapError .markup

/-- A value in a report, which must be a text. -/
def escaped : Json → Except Fault String
  | .text s => .ok (Console.Markup.escape s)
  | other => .error (.shape (.notText other.typeName))

/-- A list of names in a report. -/
def escapedList (names : List String) : String :=
  Console.Markup.escape (String.intercalate ", " names)

/-- The labels of a definition, in the order of their names. -/
def labelText (labels : Labels) : Except ShapeFault String := do
  let sorted ← Json.sortBy Prod.fst labels.entries
  return String.intercalate ", "
    (sorted.map fun (name, value) => name.display ++ "=" ++ value.display)

/-- The lines on a definition. -/
def queryLines (width : Nat) (query : RuleQuery) : Output :=
  (do line width ("    expr: " ++ (← escaped query.expression))) ::
    if query.labels.isEmpty then []
    else [do
      let text ← (labelText query.labels).mapError .shape
      line width ("    labels: " ++ Console.Markup.escape text)]

/-- The lines on the rules of one name. -/
def lines (width : Nat) (report : RuleReport) : Output :=
  (do line width ("[bold]" ++ (← escaped report.name) ++ "[/bold]:")) :: line width "  queries:" ::
    report.queries.flatMap (queryLines width) ++
    [line width "  metrics:", line width ("    direct: " ++ escapedList report.direct),
     line width ("    indirect: " ++ escapedList report.indirect)] ++
    if report.unnamed.isEmpty then []
    else [line width ("    [muted]unnamed: " ++ escapedList report.unnamed ++ "[/muted]")]

end RuleReport

namespace InspectionReport

variable [Platform]

/-- A title in a box. -/
def title (width : Nat) (text : String) : Except Fault String :=
  (Console.Message.header width text).mapError .markup

/-- What is written for all rules. -/
def output (width : Nat) (report : InspectionReport) : Output :=
  title width "Recording rules" :: report.recordingRules.flatMap (RuleReport.lines width) ++
    title width "Alerting rules" :: report.alertingRules.flatMap (RuleReport.lines width)

end InspectionReport

end RuleFixtures
