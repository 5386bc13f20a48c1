import RuleFixtures.Fault

/-!
Taking documents apart when their shape is not known.

* `Json.get` looks up a member that may be absent, `Json.need` one that must be there.
* `Json.elements` lists what a value consists of: items, names of members, or characters.
* `Json.at` takes one element of a pair; `Json.holds` asks whether a name occurs in a value.
* `Json.toDouble` converts a value to a number.
-/

namespace RuleFixtures.Json

/-- A member of an object; other values have no members to ask for. -/
def get (value : Json) (name : String) : Except ShapeFault (Option Json) :=
  match value with
  | .object members => .ok (lookupEntry name members)
  | other => .error (.noOperation other.typeName "get")

/-- A member that must be there, of an object. -/
def need (value : Json) (name : String) : Except ShapeFault Json :=
  match value with
  | .object members => match lookupEntry name members with
    | some found => .ok found
    | none => .error (.missingMember name)
  | other => .error (.notIndexable other.typeName)

/-- The items of a list, the names of an object's members, or the characters of a text. -/
def elements : Json → Except ShapeFault (List Json)
  | .list items => .ok items
  | .object members => .ok (members.map fun entry => .text entry.1)
  | .text s => .ok (s.toList.map fun c => .text (String.ofList [c]))
  | other => .error (.notIterable other.typeName)

/-- The elements of a value that may be absent or empty. -/
def elementsOrNone (value? : Option Json) : Except ShapeFault (List Json) :=
  match value? with
  | none => .ok []
  | some value => if value.isTruthy then value.elements else .ok []

/-- The element at a position. -/
def elementAt (value : Json) (position : Nat) : Except ShapeFault Json :=
  match value with
  | .list items => match items[position]? with
    | some item => .ok item
    | none => .error .shortList
  | .text s => match s.toList[position]? with
    | some c => .ok (.text (String.ofList [c]))
    | none => .error .shortText
  | .object _ => .error (.missingPosition position)
  | other => .error (.notIndexable other.typeName)

/-- Does a run of characters occur in another? -/
def occursIn (part : List Char) : List Char → Bool
  | [] => part.isEmpty
  | c :: rest => part.isPrefixOf (c :: rest) || occursIn part rest

/-- Does a text occur in a value: as a member's name, as an item, or as a part of a text? -/
def holds (value : Json) (name : String) : Except ShapeFault Bool :=
  match value with
  | .object members => .ok (lookupEntry name members).isSome
  | .list items => .ok (items.contains (.text name))
  | .text s => .ok (occursIn name.toList s.toList)
  | other => .error (.notContainer other.typeName)

/-- The number that a value stands for: numbers, truth values as one and zero, and texts that
read as numbers. -/
def toDouble : Json → Except Fault Binary64
  | .int n =>
    if (Binary64.ofInt n).isFinite then .ok (Binary64.ofInt n) else .error (.range .beyondDoubles)
  | .float x => .ok x
  | .bool b => .ok (.ofInt (if b then 1 else 0))
  | .text s => match Binary64.read? s with
    | some x => .ok x
    | none => .error (.shape (.unreadableNumber (Text.quoted s)))
  | other => .error (.shape (.notNumber other.typeName))

end RuleFixtures.Json
