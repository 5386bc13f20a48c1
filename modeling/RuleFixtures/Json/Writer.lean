import RuleFixtures.Json.Basic
import RuleFixtures.Text.Hex

/-!
Writing JSON text, in ASCII.

* `Json.compact` writes on one line, with a blank after commas and colons.
* `Json.indented` writes an item a line, two blanks deeper per level.
-/

namespace RuleFixtures.Json

/-- A unit of sixteen bits as an escape. -/
def unitEscape (value : Nat) : List Char := '\\' :: 'u' :: Text.hexDigits 4 value

/-- One character of a string. -/
def stringChar (c : Char) : List Char :=
  if c = '"' then ['\\', '"']
  else if c = '\\' then ['\\', '\\']
  else if c = '\n' then ['\\', 'n']
  else if c = '\r' then ['\\', 'r']
  else if c = '\t' then ['\\', 't']
  else if c = '\x08' then ['\\', 'b']
  else if c = '\x0c' then ['\\', 'f']
  else if 0x20 ≤ c.toNat && c.toNat < 0x7F then [c]
  else if c.toNat < 0x10000 then unitEscape c.toNat
  else
    unitEscape (0xD800 + (c.toNat - 0x10000) / 0x400) ++
      unitEscape (0xDC00 + (c.toNat - 0x10000) % 0x400)

/-- A string in its quotes. -/
def quotedString (s : String) : String :=
  String.ofList ('"' :: s.toList.flatMap stringChar ++ ['"'])

/-- The text of a double in a document. -/
def floatText : Binary64 → String
  | .nan => "NaN"
  | .infinite negative => if negative then "-Infinity" else "Infinity"
  | x => x.text

/-- The text of a value that holds no other values. -/
def scalarText : Json → String
  | .null => "null"
  | .bool true => "true"
  | .bool false => "false"
  | .int n => toString n
  | .float x => floatText x
  | .text s => quotedString s
  | .list _ => "[]"
  | .object _ => "\x7b\x7d"

mutual

/-- Writes a document on one line. -/
def compact : Json → String
  | .list items => "[" ++ compactItems items ++ "]"
  | .object members => "\x7b" ++ compactMembers members ++ "\x7d"
  | value => scalarText value

/-- Writes the items of a list on one line. -/
def compactItems : List Json → String
  | [] => ""
  | [item] => compact item
  | item :: rest => compact item ++ ", " ++ compactItems rest

/-- Writes the members of an object on one line. -/
def compactMembers : List (String × Json) → String
  | [] => ""
  | [(name, value)] => quotedString name ++ ": " ++ compact value
  | (name, value) :: rest =>
    quotedString name ++ ": " ++ compact value ++ ", " ++ compactMembers rest

end

/-- A line break and the blanks of a level. -/
def newLine (level : Nat) : String := "\n" ++ "".pushn ' ' (2 * level)

mutual

/-- Writes a document with an item a line, at a level of nesting. -/
def indentedAt (level : Nat) : Json → String
  | .list (item :: rest) =>
    "[" ++ indentedItems (level + 1) (item :: rest) ++ newLine level ++ "]"
  | .object (member :: rest) =>
    "\x7b" ++ indentedMembers (level + 1) (member :: rest) ++ newLine level ++ "\x7d"
  | value => scalarText value

/-- Writes the items of a list, each on a line of its own. -/
def indentedItems (level : Nat) : List Json → String
  | [] => ""
  | [item] => newLine level ++ indentedAt level item
  | item :: rest => newLine level ++ indentedAt level item ++ "," ++ indentedItems level rest

/-- Writes the members of an object, each on a line of its own. -/
def indentedMembers (level : Nat) : List (String × Json) → String
  | [] => ""
  | [(name, value)] => newLine level ++ quotedString name ++ ": " ++ indentedAt level value
  | (name, value) :: rest =>
    newLine level ++ quotedString name ++ ": " ++ indentedAt level value ++ "," ++
      indentedMembers level rest

end

/-- Writes a document with an item a line. -/
def indented (value : Json) : String := indentedAt 0 value

end RuleFixtures.Json
