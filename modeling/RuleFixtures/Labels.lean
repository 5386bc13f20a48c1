import RuleFixtures.Json.Access
import RuleFixtures.Json.Order

/-!
Labels of series and rules.

* `Labels` maps label names to values in the order in which they were given.
* `Labels.ofJson` accepts an object, or a sequence of pairs.
* `Labels.key` is the canonical text of a labelled series: `name{a="1", b="2"}`, the name alone
  without other labels, and `{}` without any.
-/

namespace RuleFixtures

/-- Labels in the order in which they were given. -/
abbrev Labels := OrderedMap Json Json

namespace Labels

/-- The two elements of an entry in a sequence of pairs. -/
def pairOf (position : Nat) (entry : Json) : Except ShapeFault (Json × Json) :=
  match entry with
  | .list _ | .object _ | .text _ => do
    match ← entry.elements with
    | [name, value] => do
      name.checkHashable
      return (name, value)
    | parts => throw (.entryLength position parts.length)
  | _ => .error (.entryNotSequence position)

/-- Takes up the entries of a sequence of pairs. -/
def ofPairs (position : Nat) (labels : Labels) : List Json → Except ShapeFault Labels
  | [] => .ok labels
  | entry :: rest => do
    let (name, value) ← pairOf position entry
    ofPairs (position + 1) (labels.insert name value) rest

/-- The labels of a document: the members of an object, or a sequence of pairs. -/
def ofJson : Json → Except ShapeFault Labels
  | .object members =>
    .ok (OrderedMap.ofList (members.map fun (name, value) => (.text name, value)))
  | other => do ofPairs 0 .empty (← other.elements)

/-- The labels of a document that may be absent or empty. -/
def ofJsonOrNone (value? : Option Json) : Except ShapeFault Labels :=
  match value? with
  | none => .ok .empty
  | some value => if value.isTruthy then ofJson value else .ok .empty

/-- The name of a member of a document for the name of a label, which need not be a text. -/
def memberName : Json → String
  | .null => "null"
  | .bool value => if value then "true" else "false"
  | name => name.display

/-- The labels as a document. -/
def toJson (labels : Labels) : Json :=
  .object (labels.entries.map fun (name, value) => (memberName name, value))

/-! ### Series keys -/

/-- The label that holds the name of a series. -/
def nameLabel : Json := .text "__name__"

/-- One character of a label value in a key. -/
def escapeChar (c : Char) : List Char :=
  if c = '\\' then ['\\', '\\']
  else if c = '"' then ['\\', '"']
  else if c = '\n' then ['\\', 'n']
  else [c]

/-- A label value in a key, without its quotes. -/
def escapeValue (value : String) : String := String.ofList (value.toList.flatMap escapeChar)

/-- A label in a key; its value must be a text. -/
def pairText (name value : Json) : Except ShapeFault String :=
  match value with
  | .text s => .ok (name.display ++ "=\"" ++ escapeValue s ++ "\"")
  | other => .error (.noOperation other.typeName "replace")

/-- The labels other than the name, as they stand in a key but unsorted. -/
def pairTexts : List (Json × Json) → Except ShapeFault (List String)
  | [] => .ok []
  | (name, value) :: rest =>
    if name = nameLabel then pairTexts rest
    else do return (← pairText name value) :: (← pairTexts rest)

/-- The canonical key of a series. Without labels other than the name it is the name, of
whatever kind, and `{}` for an empty name. -/
def key (labels : Labels) : Except ShapeFault Json := do
  let name := (labels.get? nameLabel).getD (.text "")
  let pairs := (← pairTexts labels.entries).mergeSort fun a b => decide (a ≤ b)
  if pairs.isEmpty then
    return if name.isTruthy then name else .text "\x7b\x7d"
  else
    return .text (name.display ++ "\x7b" ++ String.intercalate ", " pairs ++ "\x7d")

end Labels

end RuleFixtures
