import RuleFixtures.Backend.Client
import RuleFixtures.CommandLine.Invocation
import RuleFixtures.Fixtures.Generator
import RuleFixtures.Fixtures.TestFile
import RuleFixtures.Guarded
import RuleFixtures.Rules.ReportText

/-!
Running the program.

* `Run.inspect` prints the report on the rules of a backend, as text or as a document.
* `Run.generate` makes the fixtures of the selected recording rules and writes their file, or
  prints it.
* `Run.start` runs a command line: it gives the exit code, and leaves all else in the session.
-/

namespace RuleFixtures.CommandLine

/-- What a run depends on besides its session. -/
structure Run (β : Type) where
  transport : Transport β
  environment : List (String × String)
  now : Instant
  /-- The cells in a line of the terminal, if there is one. -/
  terminal : Option Nat := none

namespace Run

variable {β : Type} [Platform] [PromQL.Language]

/-- The cells in a line of the console. -/
def width (run : Run β) : Nat := Console.Message.columns run.environment run.terminal

/-! ### Warnings -/

/-- Warns of one name after the other. -/
def warnOfMissing (width : Nat) (kind : String) : List String → Act (Session β) Unit
  | [] => pure ()
  | name :: rest => do
    Session.tellMessage (Console.Message.warning width (kind ++ " rule not found: " ++ name))
    warnOfMissing width kind rest

/-- Warns of the names that are selected but not in a table. -/
def warnOfSelection (width : Nat) (kind : String) (selection : RuleSelection) (table : RuleTable) :
    Act (Session β) Unit :=
  warnOfMissing width kind (selection.missingFrom table.keys)

/-! ### The commands -/

/-- Makes the client of a configuration. -/
def openClient (config : RunConfig) : Act (Session β) Client := do
  Act.ofExcept (Client.ofConfig config Client.defaultUserAgent (← Session.currentFiles))

/-- Prints a report; what stands in front of a fault is printed. -/
def printReport (width : Nat) (report : InspectionReport) : Act (Session β) Unit := do
  let (text, result) := writtenUntilFault (report.output width)
  Session.print text
  Act.ofExcept result

/-- Reports on the selected rules. -/
def inspect (run : Run β) (config : RunConfig) (asDocument : Bool) : Act (Session β) Nat := do
  let client ← openClient config
  let catalog ← RuleCatalog.load (client.gateway run.transport)
  warnOfSelection run.width "Recording" config.recordingRules catalog.recording
  warnOfSelection run.width "Alerting" config.alertingRules catalog.alerting
  let report ← InspectionReport.ofCatalog catalog config.recordingRules.selects
    config.alertingRules.selects
  if asDocument then Session.print (report.toJson.indented ++ "\n")
  else printReport run.width report
  return 0

/-- Writes a document to a file, with the directories on the way to it. -/
def save (path document : String) : Act (Session β) Unit := do
  Session.changeFiles fun files => files.makeDirectories (FilePath.ofString path).parent
  Session.changeFiles fun files => files.write path document

/-- Makes the unit-test file of the selected recording rules. -/
def generate (run : Run β) (config : RunConfig) (output : Option String) :
    Act (Session β) Nat := do
  if !config.alertingRules.selectsAll then
    Session.tellMessage (Console.Message.warning run.width
      ("Alerting rules are not used by generate, ignoring: "
        ++ String.intercalate ", " config.alertingRules.names))
  let client ← openClient config
  let gateway := client.gateway run.transport
  let catalog ← RuleCatalog.load gateway
  warnOfSelection run.width "Recording" config.recordingRules catalog.recording
  let generator : Generator := { catalog }
  let fixtures ← generator.all gateway config.recordingRules.selects run.now
  let document := TestFile.render { tests := fixtures, ruleFiles := config.ruleFiles }
  match output.filter (· ≠ "") with
  | some path => do
    save path document
    Session.tellMessage (Console.Message.success run.width
      ("Wrote " ++ toString fixtures.length ++ " test groups to " ++ path))
  | none => Session.print document
  return 0

/-! ### The program -/

/-- The threshold of the log: a flag asks for all events, else the settings name it. -/
def thresholdOf (verbose : Bool) (settings : Settings) : Except Fault Nat :=
  if verbose then .ok Log.Level.debug.rank
  else
    let name := Text.upper settings.logLevel
    match Log.threshold? name with
    | some threshold => .ok threshold
    | none => .error (.unknownLevel name)

/-- Runs the command of an invocation. -/
def perform (run : Run β) (invocation : Invocation) : Act (Session β) Nat := do
  let files ← Session.currentFiles
  let settings ← Act.ofExcept (Settings.load run.environment files)
  Session.setThreshold (← Act.ofExcept (thresholdOf invocation.verbose settings))
  let config ← Act.ofExcept (invocation.config settings).validate
  Act.log (.runConfigured invocation.command.name config.url)
  match invocation.command with
  | .inspect => run.inspect config (invocation.output? = some "json")
  | .generate => run.generate config invocation.output?

/-- Runs a command line and gives the exit code. -/
def start (run : Run β) (arguments : List String) : StateM (Session β) Nat :=
  match Invocation.read arguments with
  | .ok invocation => guarded true (run.perform invocation)
  | .error exit => do
    modify fun session => { session with notes := session.notes ++ [.told exit.report] }
    return exit.code

end Run

end RuleFixtures.CommandLine
