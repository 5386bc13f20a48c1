import RuleFixtures.Text.Hex
import RuleFixtures.Text.Split

/-!
What a scalar without quotes stands for in YAML 1.1.

* `Resolve.isText` holds of the scalars that stand for themselves; the others are null, truth
  values, numbers, dates, or marks of the format.
-/

namespace RuleFixtures.Yaml.Resolve

/-- The words for null, truth values and the marks of the format. -/
def words : List String :=
  ["", "~", "null", "Null", "NULL", "yes", "Yes", "YES", "no", "No", "NO", "true", "True", "TRUE",
   "false", "False", "FALSE", "on", "On", "ON", "off", "Off", "OFF", "=", "<<", "!", "&", "*"]

/-- Decimal digits and the underscore. -/
def isDigitOrLine (c : Char) : Bool := c.isDigit || c = '_'

/-- A run of digits and underscores that starts with a digit. -/
def isDigits : List Char → Bool
  | c :: rest => c.isDigit && rest.all isDigitOrLine
  | [] => false

/-- Drops one sign in front. -/
def dropSign : List Char → List Char
  | '-' :: rest => rest
  | '+' :: rest => rest
  | s => s

/-- A number below sixty in one or two digits. -/
def isSixtieth : List Char → Bool
  | [c] => c.isDigit
  | [c, d] => '0' ≤ c && c ≤ '5' && d.isDigit
  | _ => false

/-- Digits in base sixty behind a leading number, at least one. -/
def isBaseSixty (leading : List Char → Bool) (s : List Char) : Bool :=
  match Text.splitAtChar ':' s with
  | first :: second :: rest => leading first && (second :: rest).all isSixtieth
  | _ => false

/-- A whole number without sign: in base two, eight, ten, sixteen or sixty. -/
def isUnsignedInteger (s : List Char) : Bool :=
  let startsFromOne (digits : List Char) : Bool := isDigits digits && digits.head? ≠ some '0'
  match s with
  | ['0'] => true
  | '0' :: 'b' :: digits => !digits.isEmpty && digits.all fun c => c = '0' || c = '1' || c = '_'
  | '0' :: 'x' :: digits =>
    !digits.isEmpty && digits.all fun c => (Text.hexValue? c).isSome || c = '_'
  | '0' :: digits => digits.all fun c => ('0' ≤ c && c ≤ '7') || c = '_'
  | _ => startsFromOne s || isBaseSixty startsFromOne s

/-- A whole number. -/
def isInteger (s : List Char) : Bool := isUnsignedInteger (dropSign s)

/-- Nothing, or an exponent with a sign. -/
def isExponent : List Char → Bool
  | [] => true
  | e :: sign :: digits =>
    (e = 'e' || e = 'E') && (sign = '-' || sign = '+') && !digits.isEmpty && digits.all Char.isDigit
  | _ => false

/-- A fraction behind its point, with an exponent or without. -/
def isFraction (s : List Char) : Bool := isExponent (s.dropWhile isDigitOrLine)

/-- A number with a point. -/
def isFloat (s : List Char) : Bool :=
  let unsigned := dropSign s
  let whole := unsigned.takeWhile (· ≠ '.')
  match unsigned.drop whole.length with
  | '.' :: fraction =>
    (isDigits whole && isFraction fraction) ||
      (isBaseSixty isDigits whole && fraction.all isDigitOrLine) ||
      (whole.isEmpty && ["inf", "Inf", "INF"].contains (String.ofList fraction)) ||
      (s.head? = some '.' &&
        (["nan", "NaN", "NAN"].contains (String.ofList fraction) ||
          ((fraction.head?.map Char.isDigit).getD false && isFraction fraction)))
  | _ => false

/-! ### Dates -/

/-- Reads a run of digits whose length is within bounds. -/
def takeDigits (least most : Nat) (s : List Char) : Option (List Char) :=
  let run := s.takeWhile Char.isDigit
  if least ≤ run.length && run.length ≤ most then some (s.drop run.length) else none

/-- Reads a character. -/
def takeChar (c : Char) : List Char → Option (List Char)
  | d :: rest => if c = d then some rest else none
  | [] => none

/-- Reads what separates a date from a time: a letter or blanks. -/
def takeGap (s : List Char) : Option (List Char) :=
  match s with
  | 'T' :: rest => some rest
  | 't' :: rest => some rest
  | _ =>
    let rest := s.dropWhile fun c => c = ' ' || c = '\t'
    if rest.length < s.length then some rest else none

/-- Nothing, or a zone behind blanks. -/
def isZone (s : List Char) : Bool :=
  match s with
  | [] => true
  | _ => match s.dropWhile (fun c => c = ' ' || c = '\t') with
    | ['Z'] => true
    | sign :: rest =>
      (sign = '-' || sign = '+') &&
        match takeDigits 1 2 rest with
        | some [] => true
        | some (':' :: minutes) => takeDigits 2 2 minutes = some []
        | _ => false
    | [] => false

/-- A time of day with seconds, a fraction if there is one, and a zone. -/
def isTime (s : List Char) : Bool :=
  let rest? := do
    let rest ← takeDigits 1 2 s
    let rest ← takeDigits 2 2 (← takeChar ':' rest)
    takeDigits 2 2 (← takeChar ':' rest)
  match rest? with
  | some ('.' :: rest) => isZone (rest.dropWhile Char.isDigit)
  | some rest => isZone rest
  | none => false

/-- A date, or a date and a time. -/
def isDate (s : List Char) : Bool :=
  let date (least : Nat) : Option (List Char) := do
    let rest ← takeDigits 4 4 s
    let rest ← takeDigits least 2 (← takeChar '-' rest)
    takeDigits least 2 (← takeChar '-' rest)
  date 2 = some [] ||
    match (date 1).bind takeGap with
    | some rest => isTime rest
    | none => false

/-- Does the scalar stand for itself? -/
def isText (s : List Char) : Bool :=
  !(words.contains (String.ofList s) || isInteger s || isFloat s || isDate s)

end RuleFixtures.Yaml.Resolve
