import RuleFixtures.CommandLine.Flag
import RuleFixtures.Text.Digit
import RuleFixtures.Text.Quoted

/-!
What the arguments of a command stand for.

An argument that starts with a dash is a flag when it is the name of one, perhaps with an equals
sign and a value, or the start of just one name; a flag of one letter may be followed by its value
at once. Numbers below zero and arguments with blanks are values. Behind two dashes all arguments
are values.

* `Token` has a constructor per kind of argument.
* `Token.ofArguments` finds the kinds of all arguments, or fails at the start of several names.
* `UsageFault` lists what can be wrong with the arguments, `UsageFault.message` says it.
-/

namespace RuleFixtures.CommandLine

/-- What is wrong with the arguments of a command. -/
inductive UsageFault where
  | ambiguous (argument : String) (names : List String)
  | expectedValue (flag : Flag)
  | ignoredValue (flag : Flag) (value : String)
  | refusedValue (flag : Flag) (value : String)
  deriving DecidableEq

/-- The message of a fault. -/
def UsageFault.message : UsageFault → String
  | .ambiguous argument names =>
    s!"ambiguous option: {argument} could match " ++ String.intercalate ", " names
  | .expectedValue flag => "argument " ++ flag.title ++ ": expected one argument"
  | .ignoredValue flag value =>
    "argument " ++ flag.title ++ ": ignored explicit argument " ++ Text.quoted value
  | .refusedValue flag value =>
    "argument " ++ flag.title ++ ": invalid choice: " ++ Text.quoted value ++ " (choose from "
      ++ String.intercalate ", " (flag.choices.map Text.quoted) ++ ")"

/-- A way to write a flag, with the value attached to it. -/
structure Spelling where
  flag : Flag
  name : String
  attached : Option String
  deriving DecidableEq

/-- What an argument stands for. -/
inductive Token where
  | option (spelling : Spelling)
  /-- Written like a flag, but none of the command. -/
  | unknown
  | value
  | separator
  deriving DecidableEq

namespace Token

/-- Cuts at the first equals sign, if there is one. -/
def splitEquals (argument : String) : String × Option String :=
  let name := argument.toList.takeWhile (· ≠ '=')
  match argument.toList.drop name.length with
  | _ :: attached => (String.ofList name, some (String.ofList attached))
  | [] => (argument, none)

/-- The flags that an argument with two dashes may stand for: those whose names it starts. -/
def longCandidates (command : Command) (argument : String) : List Spelling :=
  let (start, attached) := splitEquals argument
  command.named.filterMap fun (name, flag) =>
    if start.toList.isPrefixOf name.toList then some ⟨flag, name, attached⟩ else none

/-- The flags that an argument with one dash may stand for: the one of its first letter, which
the rest is attached to, and those whose names it starts. -/
def shortCandidates (command : Command) (argument : String) : List Spelling :=
  let letters := argument.toList
  command.named.filterMap fun (name, flag) =>
    if name.toList = letters.take 2 then some ⟨flag, name, some (String.ofList (letters.drop 2))⟩
    else if letters.isPrefixOf name.toList then some ⟨flag, name, none⟩
    else none

/-- The flags that an argument may stand for. -/
def candidates (command : Command) (argument : String) : List Spelling :=
  if "--".toList.isPrefixOf argument.toList then longCandidates command argument
  else shortCandidates command argument

/-- Is the text one or more digits? -/
def isDigits (s : List Char) : Bool :=
  !s.isEmpty && s.all fun c => (Text.decimalValue? c).isSome

/-- Does the argument look like a number below zero: a dash and digits, perhaps with a point in
front of the last of them? -/
def isNegativeNumber (argument : String) : Bool :=
  match argument.toList with
  | '-' :: rest =>
    let body := if rest.getLast? = some '\n' then rest.dropLast else rest
    let whole := body.takeWhile (· ≠ '.')
    isDigits body || ((whole.isEmpty || isDigits whole) && isDigits (body.drop (whole.length + 1)))
  | _ => false

/-- What an argument in front of two dashes stands for. -/
def ofArgument (command : Command) (argument : String) : Except UsageFault Token :=
  let (start, attached) := splitEquals argument
  if argument.toList.head? != some '-' then .ok .value
  else match command.flag? argument with
    | some flag => .ok (.option ⟨flag, argument, none⟩)
    | none =>
      if argument = "-" then .ok .value
      else match attached.bind fun _ => command.flag? start with
        | some flag => .ok (.option ⟨flag, start, attached⟩)
        | none => match candidates command argument with
          | [spelling] => .ok (.option spelling)
          | [] =>
            if isNegativeNumber argument || argument.toList.contains ' ' then .ok .value
            else .ok .unknown
          | several => .error (.ambiguous argument (several.map Spelling.name))

/-- What all arguments stand for. -/
def ofArguments (command : Command) : List String → Except UsageFault (List (String × Token))
  | [] => .ok []
  | argument :: rest =>
    if argument = "--" then .ok ((argument, .separator) :: rest.map (·, .value))
    else do
      let token ← ofArgument command argument
      return (argument, token) :: (← ofArguments command rest)

end Token

end RuleFixtures.CommandLine
