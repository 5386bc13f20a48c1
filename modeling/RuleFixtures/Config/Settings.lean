import RuleFixtures.Config.EnvFile
import RuleFixtures.Files
import RuleFixtures.Text.LetterCase

/-!
Settings from the environment.

A setting is a variable whose name is that of the setting behind a common start, in any case. The
environment has precedence over the file of variables in the working directory.

* `Settings.read` reads the settings, or tells all those that do not read and all variables of the
  file that are no setting.
* `Settings.load` reads them with the file as it is.
-/

namespace RuleFixtures

/-- The settings of a run; flags of the command line have precedence over them. -/
structure Settings where
  url : Option String := none
  tokenFile : Option String := none
  caFile : Option String := none
  insecure : Bool := false
  timeout : Binary64 := .ofInt 30
  logLevel : String := "WARNING"
  deriving DecidableEq

namespace Settings

variable [Platform]

/-- The start of the names of variables, in lower case. -/
def variableStart : String := "promtestgen_"

/-- The names of the settings. -/
def names : List String := ["url", "token_file", "ca_file", "insecure", "timeout", "log_level"]

/-- Variables with lower-case names; later ones replace those before. -/
def fold {α : Type} (entries : List (String × α)) : OrderedMap String α :=
  OrderedMap.ofList (entries.map fun (name, value) => (Text.lower name, value))

/-- The value of a setting. -/
def lookup? (environment : List (String × String)) (file : OrderedMap String (Option String))
    (name : String) : Option String :=
  match (fold environment).get? (variableStart ++ name) with
  | some value => some value
  | none => ((fold file.entries).get? (variableStart ++ name)).join

/-- The words that switch a setting on. -/
def onWords : List String := ["1", "true", "t", "yes", "y", "on"]

/-- The words that switch a setting off. -/
def offWords : List String := ["0", "false", "f", "no", "n", "off"]

/-- Reads a switch. -/
def readSwitch? (value : String) : Option Bool :=
  if onWords.contains value.toLower then some true
  else if offWords.contains value.toLower then some false
  else none

/-- The variables of a file that are no setting. Empty ones do not count, nor do those with the name
of a setting that lack the common start. -/
def unknown (file : OrderedMap String (Option String)) : List SettingFault :=
  (fold file.entries).entries.filterMap fun (name, value?) =>
    match value? with
    | none => none
    | some value =>
      if value = "" || names.contains name || names.any (fun known => name = variableStart ++ known)
      then none
      else some ⟨name, "extra_forbidden", value⟩

/-- The fault of a setting that does not read. -/
def unread {α : Type} (name reason : String) (value? : Option String) :
    Option α → List SettingFault
  | some _ => []
  | none => [⟨name, reason, value?.getD ""⟩]

/-- The settings of an environment and a file of variables. -/
def read (environment : List (String × String)) (file? : Option String) : Except Fault Settings :=
  let file := match file? with
    | some text => EnvFile.read environment text
    | none => .empty
  let lookup := lookup? environment file
  let insecure? := match lookup "insecure" with
    | some value => readSwitch? value
    | none => some false
  let timeout? := match lookup "timeout" with
    | some value => Binary64.read? value
    | none => some (.ofInt 30)
  match insecure?, timeout?, unknown file with
  | some insecure, some timeout, [] =>
    .ok ⟨lookup "url", lookup "token_file", lookup "ca_file", insecure, timeout,
      (lookup "log_level").getD "WARNING"⟩
  | _, _, extra =>
    let faults := unread "insecure" "bool_parsing" (lookup "insecure") insecure?
      ++ unread "timeout" "float_parsing" (lookup "timeout") timeout? ++ extra
    .error (.settings faults (Platform.settingsText faults))

/-- The text of the file of variables, if there is one. -/
def fileText (files : Files) : Except Fault (Option String) :=
  match files.read ".env" with
  | .ok text => .ok (some text)
  | .error (.broken fault) => .error (.broken fault)
  | .error (.file _) => .ok none

/-- The settings of an environment and the files of the working directory. -/
def load (environment : List (String × String)) (files : Files) : Except Fault Settings := do
  read environment (← fileText files)

end Settings

end RuleFixtures
