import RuleFixtures.Json.Basic
import RuleFixtures.Text.Quoted

/-!
Values as messages show them.

* `Json.inspect` shows texts in quotes; `Json.display` shows a text as it is and other values
  as `inspect` does.
-/

namespace RuleFixtures.Json

mutual

/-- The form of a value in which texts are quoted. -/
def inspect : Json → String
  | .null => "None"
  | .bool true => "True"
  | .bool false => "False"
  | .int n => toString n
  | .float x => x.text
  | .text s => Text.quoted s
  | .list items => "[" ++ inspectItems items ++ "]"
  | .object members => "\x7b" ++ inspectMembers members ++ "\x7d"

/-- The items of a list, with commas between them. -/
def inspectItems : List Json → String
  | [] => ""
  | [item] => inspect item
  | item :: rest => inspect item ++ ", " ++ inspectItems rest

/-- The members of an object, with commas between them. -/
def inspectMembers : List (String × Json) → String
  | [] => ""
  | [(name, value)] => Text.quoted name ++ ": " ++ inspect value
  | (name, value) :: rest =>
    Text.quoted name ++ ": " ++ inspect value ++ ", " ++ inspectMembers rest

end

/-- The form of a value in running text. -/
def display : Json → String
  | .text s => s
  | value => inspect value

end RuleFixtures.Json
