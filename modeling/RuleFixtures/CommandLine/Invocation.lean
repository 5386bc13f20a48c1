import RuleFixtures.CommandLine.Token
import RuleFixtures.Config.RunConfig
import RuleFixtures.Config.Settings

/-!
What the command line asks for.

* `Assignment.ofTokens` goes through the arguments: flags that take a value take the next
  argument, and letters of flags without a value may be written together.
* `Invocation.read` reads a command line; without a command it inspects. `Exit` lists the ways in
  which the program ends there, with `Exit.code` and `Exit.message`.
* `Invocation.config` is the configuration of the run: flags have precedence over settings.

The conventions are those of `argparse` as released with 3.11.8 and 3.12.2: two dashes attached to
a flag are its value, and a flag without a value takes the letter of another one behind an equals
sign. Earlier releases break off at the former and later ones refuse the latter.
-/

namespace RuleFixtures.CommandLine

/-- A flag with its value. -/
structure Assignment where
  flag : Flag
  value : Option String
  deriving DecidableEq

/-- How the program ends without a command having run. -/
inductive Exit where
  | help
  | usage (command : Command) (fault : UsageFault)
  /-- Arguments that no flag takes. -/
  | unrecognized (arguments : List String)
  deriving DecidableEq

/-- The name of the program in messages. -/
def programName : String := "promtestgen"

/-- The exit code of an end. -/
def Exit.code : Exit → Nat
  | .help => 0
  | _ => 2

/-- The message of an end. -/
def Exit.message : Exit → String
  | .help => ""
  | .usage command fault => programName ++ " " ++ command.name ++ ": error: " ++ fault.message
  | .unrecognized arguments =>
    programName ++ ": error: unrecognized arguments: " ++ String.intercalate " " arguments

/-- The line on the error stream; asking for help is no error. -/
def Exit.report : Exit → String
  | .help => ""
  | exit => exit.message ++ "\n"

namespace Assignment

/-- Flags of one letter that are written together. -/
structure Cluster where
  /-- The flags in front of the last. -/
  switches : List Flag
  last : Flag
  /-- The value of the last flag, if it is attached. -/
  attached : Option String

/-- Splits what is attached to a flag without a value into further letters. -/
def cluster (command : Command) (flag : Flag) (name : String) :
    List Char → Except UsageFault Cluster
  | [] => .error (.ignoredValue flag "")
  | letter :: rest =>
    let ignored : Except UsageFault Cluster :=
      .error (.ignoredValue flag (String.ofList (letter :: rest)))
    if "--".toList.isPrefixOf name.toList then ignored
    else match command.flag? (String.ofList ['-', letter]) with
      | none => ignored
      | some next =>
        if rest.isEmpty then .ok ⟨[flag], next, none⟩
        else if next.takesValue then .ok ⟨[flag], next, some (String.ofList rest)⟩
        else do
          let more ← cluster command next (String.ofList ['-', letter]) rest
          return { more with switches := flag :: more.switches }

/-- The flags that an argument stands for. -/
def clusterOf (command : Command) (spelling : Spelling) : Except UsageFault Cluster :=
  match spelling.attached with
  | none => .ok ⟨[], spelling.flag, none⟩
  | some value =>
    if spelling.flag.takesValue then .ok ⟨[], spelling.flag, some value⟩
    else cluster command spelling.flag spelling.name value.toList

/-- Checks a value against the choices of its flag. -/
def check (assignment : Assignment) : Except UsageFault Unit :=
  match assignment.value with
  | some value =>
    if assignment.flag.choices.isEmpty || assignment.flag.choices.contains value then .ok ()
    else .error (.refusedValue assignment.flag value)
  | none => .ok ()

/-- Takes flags up; the flag for help ends the program. -/
def take (command : Command) (assignments : List Assignment) : Except Exit Unit :=
  match assignments with
  | [] => .ok ()
  | assignment :: rest => do
    if assignment.flag = .help then throw .help
    assignment.check.mapError (.usage command)
    take command rest

/-- Goes through the arguments of a command: the flags with their values, and the arguments that
no flag takes. -/
def ofTokens (command : Command) :
    List (String × Token) → Except Exit (List Assignment × List String)
  | [] => .ok ([], [])
  | (argument, token) :: rest =>
    match token with
    | .option spelling => do
      let found ← (clusterOf command spelling).mapError (.usage command)
      let switches := found.switches.map fun flag => (⟨flag, none⟩ : Assignment)
      let goOn (value : Option String) (tail : Except Exit (List Assignment × List String)) :
          Except Exit (List Assignment × List String) := do
        let taken := switches ++ [⟨found.last, value⟩]
        take command taken
        let (more, extra) ← tail
        return (taken ++ more, extra)
      match found.attached with
      | some value => goOn (some value) (ofTokens command rest)
      | none =>
        if found.last.takesValue then
          match rest with
          | (value, .value) :: after => goOn (some value) (ofTokens command after)
          | _ => .error (.usage command (.expectedValue found.last))
        else goOn none (ofTokens command rest)
    | _ => do
      let (more, extra) ← ofTokens command rest
      return (more, argument :: extra)

end Assignment

/-! ### Invocations -/

/-- A command with the flags given to it. -/
structure Invocation where
  command : Command
  assignments : List Assignment
  deriving DecidableEq

namespace Invocation

/-- Reads the arguments of a command. -/
def readArguments (command : Command) (arguments : List String) : Except Exit Invocation := do
  let tokens ← (Token.ofArguments command arguments).mapError (.usage command)
  let (assignments, extra) ← Assignment.ofTokens command tokens
  if extra.isEmpty then return ⟨command, assignments⟩
  else throw (.unrecognized extra)

/-- Reads a command line. -/
def read (arguments : List String) : Except Exit Invocation :=
  match arguments with
  | [] => readArguments .inspect []
  | first :: rest =>
    if first = "-h" || first = "--help" then .error .help
    else match Command.ofName? first with
      | some command => readArguments command rest
      | none => readArguments .inspect arguments

/-- The value of a flag; of several the last counts. -/
def value? (invocation : Invocation) (flag : Flag) : Option String :=
  (invocation.assignments.reverse.find? fun assignment => assignment.flag = flag).bind
    Assignment.value

/-- The values of a flag that may be repeated. -/
def values (invocation : Invocation) (flag : Flag) : List String :=
  (invocation.assignments.filter fun assignment => assignment.flag = flag).filterMap
    Assignment.value

/-- Is the flag given? -/
def has (invocation : Invocation) (flag : Flag) : Bool :=
  invocation.assignments.any fun assignment => assignment.flag = flag

/-- Are debug events logged? -/
def verbose (invocation : Invocation) : Bool := invocation.has .verbose

/-- What the flag for the output says: the form of a report, or the file to write to. -/
def output? (invocation : Invocation) : Option String :=
  match invocation.command with
  | .inspect => some ((invocation.value? .form).getD "text")
  | .generate => invocation.value? .output

/-- A value that is not empty. -/
def nonempty? (value : Option String) : Option String := value.filter (· ≠ "")

/-- The configuration of the run: a flag that is absent or empty leaves the setting. -/
def config (invocation : Invocation) (settings : Settings) : RunConfig where
  url := ((nonempty? (invocation.value? .url)).or settings.url).getD ""
  tokenFile := (nonempty? (invocation.value? .tokenFile)).or settings.tokenFile
  caFile := (nonempty? (invocation.value? .ca)).or settings.caFile
  insecure := invocation.has .insecure || settings.insecure
  timeout := settings.timeout
  recordingRules := .ofFlags (invocation.values .recordingRule)
  alertingRules := .ofFlags (invocation.values .alertingRule)
  ruleFiles := invocation.values .ruleFile

end Invocation

end RuleFixtures.CommandLine
