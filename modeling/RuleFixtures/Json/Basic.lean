import RuleFixtures.Number.Shortest
import RuleFixtures.OrderedMap

/-!
JSON documents, with members in document order and whole numbers apart from doubles.

* `Json` is the type of documents; `Json.typeName` names the kind of a value in messages.
* `Json.member?` looks up a member; `Json.isTruthy` is the test that treats empty, zero and null
  values as absent.
* `Json.setMember` keeps the place of a member that is already there.
-/

namespace RuleFixtures

/-- A JSON document. -/
inductive Json where
  | null
  | bool (value : Bool)
  | int (value : Int)
  | float (value : Binary64)
  | text (value : String)
  | list (items : List Json)
  | object (members : List (String × Json))
  deriving Inhabited

namespace Json

mutual

/-- Decides whether two documents are the same. -/
def decEq : (x y : Json) → Decidable (x = y)
  | .null, .null => isTrue rfl
  | .bool a, .bool b => decidable_of_iff (a = b) (by simp)
  | .int a, .int b => decidable_of_iff (a = b) (by simp)
  | .float a, .float b => decidable_of_iff (a = b) (by simp)
  | .text a, .text b => decidable_of_iff (a = b) (by simp)
  | .list a, .list b => match decEqList a b with
    | isTrue h => isTrue (by rw [h])
    | isFalse h => isFalse (by simpa using h)
  | .object a, .object b => match decEqMembers a b with
    | isTrue h => isTrue (by rw [h])
    | isFalse h => isFalse (by simpa using h)
  | .null, .bool _ | .null, .int _ | .null, .float _ | .null, .text _ | .null, .list _
  | .null, .object _ | .bool _, .null | .bool _, .int _ | .bool _, .float _ | .bool _, .text _
  | .bool _, .list _ | .bool _, .object _ | .int _, .null | .int _, .bool _ | .int _, .float _
  | .int _, .text _ | .int _, .list _ | .int _, .object _ | .float _, .null | .float _, .bool _
  | .float _, .int _ | .float _, .text _ | .float _, .list _ | .float _, .object _
  | .text _, .null | .text _, .bool _ | .text _, .int _ | .text _, .float _ | .text _, .list _
  | .text _, .object _ | .list _, .null | .list _, .bool _ | .list _, .int _ | .list _, .float _
  | .list _, .text _ | .list _, .object _ | .object _, .null | .object _, .bool _
  | .object _, .int _ | .object _, .float _ | .object _, .text _ | .object _, .list _ =>
    isFalse (by intro h; cases h)

/-- Decides whether two lists of documents are the same. -/
def decEqList : (xs ys : List Json) → Decidable (xs = ys)
  | [], [] => isTrue rfl
  | [], _ :: _ => isFalse (by simp)
  | _ :: _, [] => isFalse (by simp)
  | x :: xs, y :: ys => match decEq x y with
    | isFalse h => isFalse (by simp [h])
    | isTrue h => match decEqList xs ys with
      | isFalse t => isFalse (by simp [t])
      | isTrue t => isTrue (by rw [h, t])

/-- Decides whether two lists of members are the same. -/
def decEqMembers : (xs ys : List (String × Json)) → Decidable (xs = ys)
  | [], [] => isTrue rfl
  | [], _ :: _ => isFalse (by simp)
  | _ :: _, [] => isFalse (by simp)
  | (k, x) :: xs, (l, y) :: ys =>
    if hk : k = l then
      match decEq x y with
      | isFalse h => isFalse (by simp [h])
      | isTrue h => match decEqMembers xs ys with
        | isFalse t => isFalse (by simp [t])
        | isTrue t => isTrue (by rw [hk, h, t])
    else isFalse (by simp [hk])

end

instance : DecidableEq Json := decEq

/-- The name of the kind of a value, as messages give it. -/
def typeName : Json → String
  | .null => "NoneType"
  | .bool _ => "bool"
  | .int _ => "int"
  | .float _ => "float"
  | .text _ => "str"
  | .list _ => "list"
  | .object _ => "dict"

/-- Neither null nor false nor zero nor empty? -/
def isTruthy : Json → Bool
  | .null => false
  | .bool value => value
  | .int value => value ≠ 0
  | .float value => !value.isZero
  | .text value => value ≠ ""
  | .list items => !items.isEmpty
  | .object members => !members.isEmpty

/-- The member of an object; other values have none. -/
def member? (value : Json) (name : String) : Option Json :=
  match value with
  | .object members => lookupEntry name members
  | _ => none

/-- Writes a member: in its place if there is one of that name, else at the end. -/
def setMember (name : String) (value : Json) (members : List (String × Json)) :
    List (String × Json) :=
  alterEntry name (fun _ => value) members

/-- A member with a new name comes to the end. -/
theorem setMember_of_notMem {name : String} {members : List (String × Json)}
    (h : name ∉ members.map Prod.fst) (value : Json) :
    setMember name value members = members ++ [(name, value)] := by
  rw [setMember, alterEntry_of_notMem h]

end Json

end RuleFixtures
