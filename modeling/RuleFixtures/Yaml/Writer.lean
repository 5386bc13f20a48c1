import RuleFixtures.Json.Basic
import RuleFixtures.Yaml.Scalar

/-!
Writing documents in YAML, in block style.

Members keep their order; the items of a list stand at the indentation of its key. Empty lists and
objects are written in brackets.

* `Yaml.document` writes a document.
-/

namespace RuleFixtures.Yaml

/-- The text of a number: an exponent needs a point before it. -/
def floatText (x : Binary64) : String :=
  match x with
  | .nan => ".nan"
  | .infinite negative => if negative then "-.inf" else ".inf"
  | finite =>
    let digits := finite.textList
    if digits.contains 'e' && !digits.contains '.' then
      String.ofList (digits.takeWhile (· ≠ 'e') ++ ".0".toList ++ digits.dropWhile (· ≠ 'e'))
    else String.ofList digits

/-- The text of a value that holds no other values, at an indentation. -/
def scalarText (indent : Nat) : Json → String
  | .null => "null"
  | .bool true => "true"
  | .bool false => "false"
  | .int n => toString n
  | .float x => floatText x
  | .text s => Scalar.write indent s
  | .list _ => "[]"
  | .object _ => "\x7b\x7d"

/-- The blanks in front of a line. -/
def blanks (indent : Nat) : String := "".pushn ' ' indent

mutual

/-- The members of an object at an indentation. The first follows what is already on its line. -/
def members (indent : Nat) : List (String × Json) → String
  | [] => ""
  | [(name, value)] => Scalar.write (indent + 2) name ++ ":" ++ memberValue indent value
  | (name, value) :: rest =>
    Scalar.write (indent + 2) name ++ ":" ++ memberValue indent value ++ blanks indent ++
      members indent rest

/-- The value of a member, behind its colon, up to the end of its last line. -/
def memberValue (indent : Nat) : Json → String
  | .list (item :: rest) => "\n" ++ blanks indent ++ items indent (item :: rest)
  | .object (entry :: rest) =>
    "\n" ++ blanks (indent + 2) ++ members (indent + 2) (entry :: rest)
  | value => " " ++ scalarText (indent + 2) value ++ "\n"

/-- The items of a list at an indentation. The first follows what is already on its line. -/
def items (indent : Nat) : List Json → String
  | [] => ""
  | [item] => "- " ++ itemValue indent item
  | item :: rest => "- " ++ itemValue indent item ++ blanks indent ++ items indent rest

/-- An item, behind its hyphen, up to the end of its last line. -/
def itemValue (indent : Nat) : Json → String
  | .list (item :: rest) => items (indent + 2) (item :: rest)
  | .object (entry :: rest) => members (indent + 2) (entry :: rest)
  | value => scalarText (indent + 2) value ++ "\n"

end

/-- Writes an object as a document. -/
def document : Json → String
  | .object (entry :: rest) => members 0 (entry :: rest)
  | .list (item :: rest) => items 0 (item :: rest)
  | value => scalarText 0 value ++ "\n"

end RuleFixtures.Yaml
