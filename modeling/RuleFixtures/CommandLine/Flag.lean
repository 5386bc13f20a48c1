/-!
The commands and their flags.

* `Command.flags` lists the flags of a command, `Flag.names` the ways to write a flag.
* `Command.named` lists all ways to write a flag of a command, in order; `Command.flag?` finds the
  flag of a name.
-/

namespace RuleFixtures.CommandLine

/-- What the program can be asked to do. -/
inductive Command where
  | inspect
  | generate
  deriving DecidableEq

/-- The name of a command. -/
def Command.name : Command → String
  | .inspect => "inspect"
  | .generate => "generate"

/-- The command of a name. -/
def Command.ofName? (name : String) : Option Command :=
  [Command.inspect, .generate].find? fun command => command.name = name

/-- The flags of the command line. -/
inductive Flag where
  | help
  | url
  | tokenFile
  | ca
  | insecure
  | recordingRule
  | alertingRule
  | verbose
  /-- The form of a report. -/
  | form
  | ruleFile
  /-- The file to write to. -/
  | output
  deriving DecidableEq

namespace Flag

/-- The ways to write a flag, in the order in which messages give them. -/
def names : Flag → List String
  | .help => ["-h", "--help"]
  | .url => ["-url", "--url"]
  | .tokenFile => ["-token-file", "--token-file"]
  | .ca => ["-ca", "--ca"]
  | .insecure => ["-insecure", "--insecure"]
  | .recordingRule => ["-recording-rule", "--recording-rule"]
  | .alertingRule => ["-alerting-rule", "--alerting-rule"]
  | .verbose => ["-v", "--verbose"]
  | .form => ["--output"]
  | .ruleFile => ["-rule-file", "--rule-file"]
  | .output => ["-o", "--output"]

/-- Does a value follow the flag? -/
def takesValue : Flag → Bool
  | .help => false
  | .insecure => false
  | .verbose => false
  | _ => true

/-- The values that are accepted; none if all are. -/
def choices : Flag → List String
  | .form => ["text", "json"]
  | _ => []

/-- The name of a flag in messages. -/
def title (flag : Flag) : String := String.intercalate "/" flag.names

end Flag

namespace Command

/-- The flags of a command, in order. -/
def flags (command : Command) : List Flag :=
  [.help, .url, .tokenFile, .ca, .insecure, .recordingRule, .alertingRule, .verbose] ++
    match command with
    | .inspect => [.form]
    | .generate => [.ruleFile, .output]

/-- All ways to write a flag of a command, in order. -/
def named (command : Command) : List (String × Flag) :=
  command.flags.flatMap fun flag => flag.names.map (·, flag)

/-- The flag of a name. -/
def flag? (command : Command) (name : String) : Option Flag :=
  (command.named.find? fun entry => entry.1 = name).map Prod.snd

end Command

end RuleFixtures.CommandLine
