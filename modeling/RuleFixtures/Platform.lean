/-!
What a run takes from the machine and from the libraries that it runs on.

* `Platform` says what these answer, and how many lists and objects a document may nest.
* `Platform.standard` is a platform with the usual limit of nesting.
-/

namespace RuleFixtures

/-- The value of a setting that is refused, with the name of the setting and the reason. -/
structure SettingFault where
  name : String
  reason : String
  value : String
  deriving DecidableEq

/-- What a run takes from the machine and from the libraries that it runs on. -/
class Platform where
  /-- The number of lists and objects that may stand one inside the other in a document. -/
  nesting : Nat
  /-- The documents of a backend are not nested deeper than this. -/
  sixteen_le_nesting : 16 ≤ nesting
  /-- The name of a host that is not in ASCII, as it is sent. -/
  encodeHost? : String → Option String
  /-- The kind and the text of the fault of a file of trusted authorities, if it has one. -/
  authoritiesFault? : List UInt8 → Option (String × String)
  /-- The text of the fault of the parameters of a handler in a console text, if they have one. -/
  handlerFault? : String → Option String
  /-- What is said of settings that are refused. -/
  settingsText : List SettingFault → String

namespace Platform

/-- The line on a setting that is refused. -/
def settingLine (fault : SettingFault) : String :=
  s!"{fault.name}: {fault.reason}, given {fault.value}"

/-- The fault of parameters that only open brackets. -/
def bracketFault? (parameters : String) : Option String :=
  if parameters ≠ "" && parameters.length < 200 && parameters.toList.all (· = '(') then
    some s!"error parsing '{parameters}' in '{parameters}'; '(' was never closed"
  else none

/-- A platform with the limit of nesting that is usual in the middle of a run. Hosts outside ASCII
have no encoding on it, it finds no fault with authorities, and of the parameters of handlers it
knows those that only open brackets. -/
instance standard : Platform where
  nesting := 970
  sixteen_le_nesting := by decide
  encodeHost? _ := none
  authoritiesFault? _ := none
  handlerFault? := bracketFault?
  settingsText faults := String.intercalate "\n" (faults.map settingLine)

end Platform

end RuleFixtures
