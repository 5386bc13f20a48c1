import RuleFixtures.Json.Basic
import RuleFixtures.Text.Hex

/-!
Reading JSON text.

Besides the standard grammar the words `NaN`, `Infinity` and `-Infinity` are numbers; of members
with one name the last is kept, in the place of the first; whole numbers have at most 4300
digits. A half of a surrogate pair without its partner reads as the replacement character.

* `Json.readList` reads a document that fills its text and is not nested deeper than the room
  there is; `Json.ReadFault` says what else becomes of a text.
* `Json.read?` reads a document however deep it is nested.
-/

namespace RuleFixtures.Json

/-- The blanks between the parts of a document. -/
def isSpace (c : Char) : Bool := c = ' ' || c = '\t' || c = '\n' || c = '\r'

/-- Drops the blanks in front. -/
def skipSpace (s : List Char) : List Char := s.dropWhile isSpace

/-- The character of a one-letter escape. -/
def escapeLetter? : Char → Option Char
  | '"' => some '"'
  | '\\' => some '\\'
  | '/' => some '/'
  | 'b' => some '\x08'
  | 'f' => some '\x0c'
  | 'n' => some '\n'
  | 'r' => some '\r'
  | 't' => some '\t'
  | _ => none

/-- The character that one or two units of sixteen bits stand for. -/
def charOfUnits (high : Nat) (low? : Option Nat) : Char :=
  match low? with
  | some low => Char.ofNat (0x10000 + (high - 0xD800) * 0x400 + (low - 0xDC00))
  | none => if 0xD800 ≤ high && high ≤ 0xDFFF then '\uFFFD' else Char.ofNat high

/-- Reads the rest of a string, behind its opening quote; `done` holds the characters read so
far, last first. -/
def readString? : (fuel : Nat) → (done : List Char) → List Char → Option (String × List Char)
  | 0, _, _ => none
  | _, _, [] => none
  | fuel + 1, done, c :: rest =>
    if c = '"' then some (String.ofList done.reverse, rest)
    else if c.toNat < 0x20 then none
    else if c ≠ '\\' then readString? fuel (c :: done) rest
    else match rest with
      | 'u' :: a :: b :: x :: y :: tail => do
        let high ← Text.hexNumber? [a, b, x, y]
        match tail with
        | '\\' :: 'u' :: e :: f :: g :: h :: after =>
          match Text.hexNumber? [e, f, g, h] with
          | some low =>
            if 0xD800 ≤ high && high ≤ 0xDBFF && 0xDC00 ≤ low && low ≤ 0xDFFF then
              readString? fuel (charOfUnits high (some low) :: done) after
            else readString? fuel (charOfUnits high none :: done) tail
          | none => readString? fuel (charOfUnits high none :: done) tail
        | _ => readString? fuel (charOfUnits high none :: done) tail
      | letter :: tail => do
        let escaped ← escapeLetter? letter
        readString? fuel (escaped :: done) tail
      | [] => none

/-- A quote ends a string. -/
theorem readString?_close (fuel : Nat) (done rest : List Char) :
    readString? (fuel + 1) done ('"' :: rest) = some (String.ofList done.reverse, rest) := by
  simp [readString?]

/-- Reads a number: whole when it has neither point nor exponent. -/
def readNumber? (s : List Char) : Option (Json × List Char) :=
  let (negative, body) := match s with
    | '-' :: rest => (true, rest)
    | _ => (false, s)
  let whole := match body with
    | '0' :: _ => ['0']
    | _ => body.takeWhile Char.isDigit
  if whole.isEmpty then none
  else
    let rest := body.drop whole.length
    let fraction := match rest with
      | '.' :: tail => tail.takeWhile Char.isDigit
      | _ => []
    let rest := if fraction.isEmpty then rest else rest.drop (fraction.length + 1)
    let exponent? : Option (Int × List Char) := match rest with
      | c :: tail =>
        if c = 'e' || c = 'E' then
          let (minus, digits) := DecimalReader.splitSign tail
          let power := digits.takeWhile Char.isDigit
          if power.isEmpty then none
          else
            let value : Int := (Nat.ofDigitChars 10 power 0 : Nat)
            some (if minus then -value else value, digits.drop power.length)
        else none
      | [] => none
    let digits := Nat.ofDigitChars 10 (whole ++ fraction) 0
    match exponent? with
    | some (power, rest) =>
      some (.float (.ofDecimal negative digits (power - fraction.length)), rest)
    | none =>
      if fraction.isEmpty then
        if 4300 < whole.length then none
        else some (.int (if negative then -(digits : Int) else digits), rest)
      else some (.float (.ofDecimal negative digits (-(fraction.length : Int))), rest)

/-- The words among the values. -/
def words : List (String × Json) :=
  [("null", .null), ("true", .bool true), ("false", .bool false), ("NaN", .float .nan),
   ("Infinity", .float (.infinite false)), ("-Infinity", .float (.infinite true))]

/-- Reads one of the words. -/
def readWord? (s : List Char) : Option (Json × List Char) :=
  words.findSome? fun (word, value) =>
    if word.toList.isPrefixOf s then some (value, s.drop word.length) else none

/-- What keeps a text from being read as a document. -/
inductive ReadFault where
  | malformed
  /-- There is no room for one more list or object inside the others. -/
  | tooDeep (inObject : Bool)
  deriving DecidableEq

/-- Takes what was found; else the text is malformed. -/
def orMalformed {α : Type} : Option α → Except ReadFault α
  | some found => .ok found
  | none => .error .malformed

mutual

/-- Reads a value with the blanks in front of it, with room for a number of lists and objects one
inside the other. -/
def readValue : (fuel room : Nat) → List Char → Except ReadFault (Json × List Char)
  | 0, _, _ => .error .malformed
  | fuel + 1, room, s =>
    match skipSpace s with
    | '"' :: rest =>
      (orMalformed (readString? (rest.length + 1) [] rest)).map fun (value, tail) =>
        (.text value, tail)
    | '[' :: rest => match room with
      | 0 => .error (.tooDeep false)
      | room + 1 => match skipSpace rest with
        | ']' :: tail => .ok (.list [], tail)
        | _ => readItems fuel room [] rest
    | '\x7b' :: rest => match room with
      | 0 => .error (.tooDeep true)
      | room + 1 => match skipSpace rest with
        | '\x7d' :: tail => .ok (.object [], tail)
        | _ => readMembers fuel room [] rest
    | body => match readWord? body with
      | some found => .ok found
      | none => orMalformed (readNumber? body)

/-- Reads the items of a list and its closing bracket; `done` holds those read, last first. -/
def readItems :
    (fuel room : Nat) → (done : List Json) → List Char → Except ReadFault (Json × List Char)
  | 0, _, _, _ => .error .malformed
  | fuel + 1, room, done, s => do
    let (item, rest) ← readValue fuel room s
    match skipSpace rest with
    | ',' :: tail => readItems fuel room (item :: done) tail
    | ']' :: tail => .ok (.list (item :: done).reverse, tail)
    | _ => .error .malformed

/-- Reads the members of an object and its closing brace. -/
def readMembers : (fuel room : Nat) → (done : List (String × Json)) → List Char →
    Except ReadFault (Json × List Char)
  | 0, _, _, _ => .error .malformed
  | fuel + 1, room, done, s =>
    match skipSpace s with
    | '"' :: rest => do
      let (name, rest) ← orMalformed (readString? (rest.length + 1) [] rest)
      match skipSpace rest with
      | ':' :: rest => do
        let (value, rest) ← readValue fuel room rest
        match skipSpace rest with
        | ',' :: tail => readMembers fuel room (setMember name value done) tail
        | '\x7d' :: tail => .ok (.object (setMember name value done), tail)
        | _ => .error .malformed
      | _ => .error .malformed
    | _ => .error .malformed

end

/-- Reads a document that fills the text, blanks apart. No character takes more than two steps: an
opening bracket leads to a value and to its first item. -/
def readList (room : Nat) (s : List Char) : Except ReadFault Json := do
  let (value, rest) ← readValue (2 * s.length + 1) room s
  if (skipSpace rest).isEmpty then return value else throw .malformed

/-- Reads a document that fills the text, blanks apart. It has fewer lists and objects than
characters, so there is room for all of them. -/
def read? (text : String) : Option Json := (readList text.length text.toList).toOption

end RuleFixtures.Json
