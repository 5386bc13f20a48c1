import RuleFixtures.Number.DecimalReader
import RuleFixtures.Text.Hex
import RuleFixtures.Time.DurationText

/-!
The tokens of a query.

* `Token` is the type of tokens; words become keywords only by their place in the query.
* `Token.next?` reads the token in front of a text and returns what follows it;
  `Token.scan?` reads a whole text.
-/

namespace RuleFixtures.PromQL

/-- A token of a query. -/
inductive Token where
  /-- A keyword or a name, as it is written. -/
  | word (text : String)
  /-- A number. -/
  | number (value : Binary64)
  /-- A duration in milliseconds. -/
  | span (milliseconds : Nat)
  /-- A quoted text, its escapes resolved. -/
  | text (value : String)
  /-- A bracket, a separator or an operator that is no word. -/
  | symbol (text : String)
  deriving DecidableEq, Inhabited

namespace Token

/-- The blanks between tokens. -/
def isSpace (c : Char) : Bool := c = ' ' || c = '\t' || c = '\n' || c = '\r'

/-- Letters and the underscore. -/
def isLetter (c : Char) : Bool := c.isAlpha || c = '_'

/-- What may follow the first letter of a label name. -/
def isWordChar (c : Char) : Bool := isLetter c || c.isDigit

/-- What a metric name is made of; it does not start with a digit. -/
def isNameChar (c : Char) : Bool := isWordChar c || c = ':'

/-! ### Quoted texts -/

/-- Reads a character given by its number in so many digits of a base, no number above the
limit. -/
def numbered? (base digits limit : Nat) (s : List Char) : Option (Char × List Char) :=
  let run := s.take digits
  let value := run.foldl
    (fun value c => value.bind fun v => (Text.hexValue? c).bind fun d =>
      if d < base then some (base * v + d) else none) (some 0)
  match value with
  | some n =>
    if run.length = digits && n ≤ limit && !(0xD800 ≤ n && n ≤ 0xDFFF) then
      some (Char.ofNat n, s.drop digits)
    else none
  | none => none

/-- Reads an escape, behind its backslash, in a text with the given quotes. -/
def escape? (quote : Char) : List Char → Option (Char × List Char)
  | [] => none
  | c :: rest => match c with
    | 'a' => some ('\x07', rest)
    | 'b' => some ('\x08', rest)
    | 'f' => some ('\x0c', rest)
    | 'n' => some ('\n', rest)
    | 'r' => some ('\r', rest)
    | 't' => some ('\t', rest)
    | 'v' => some ('\x0b', rest)
    | '\\' => some ('\\', rest)
    | 'x' => numbered? 16 2 0xFF rest
    | 'u' => numbered? 16 4 0xFFFF rest
    | 'U' => numbered? 16 8 0x10FFFF rest
    | _ =>
      if c = quote then some (c, rest)
      else if '0' ≤ c ∧ c ≤ '7' then numbered? 8 3 0xFF (c :: rest)
      else none

/-- Reads the rest of a text in quotes that knows escapes; `done` holds the characters so far,
last first. -/
def readQuoted? (quote : Char) (done : List Char) (s : List Char) :
    Option (String × List Char) :=
  match s with
  | [] => none
  | c :: rest =>
    if c = quote then some (String.ofList done.reverse, rest)
    else if c = '\n' then none
    else if c = '\\' then
      match escape? quote rest with
      | some (value, tail) =>
        if tail.length < rest.length + 1 then readQuoted? quote (value :: done) tail else none
      | none => none
    else readQuoted? quote (c :: done) rest
  termination_by s.length

/-- Reads the rest of a text between back quotes, which knows no escapes. -/
def readRaw? (s : List Char) : Option (String × List Char) :=
  match s.dropWhile (· ≠ '\x60') with
  | _ :: rest => some (String.ofList (s.takeWhile (· ≠ '\x60')), rest)
  | [] => none

/-! ### Numbers and durations -/

/-- The digits, point and exponent in front of a text, and what follows. -/
def splitNumber (s : List Char) : List Char × List Char :=
  let (whole, fraction, rest) := DecimalReader.splitDecimal s
  let mantissa := s.take (s.length - rest.length)
  match rest with
  | c :: tail =>
    if (c = 'e' || c = 'E') && !(whole.isEmpty && fraction.isEmpty) then
      let (_, digits) := DecimalReader.splitSign tail
      let signed := tail.take (tail.length - digits.length)
      (mantissa ++ c :: signed ++ digits.takeWhile Char.isDigit, digits.dropWhile Char.isDigit)
    else (mantissa, rest)
  | [] => (mantissa, rest)

/-- The value of a number: in base eight when it starts with zero and has digits below eight
only, else a decimal. -/
def numberValue? (s : List Char) : Option Binary64 :=
  match s with
  | '0' :: d :: rest =>
    if (d :: rest).all fun c => '0' ≤ c && c ≤ '7' then
      some (.ofInt (Nat.ofDigitChars 8 (d :: rest) 0))
    else DecimalReader.readDecimal? false s
  | _ => DecimalReader.readDecimal? false s

/-- Does a text go on with a character of words? -/
def startsWithWordChar : List Char → Bool
  | c :: _ => isWordChar c
  | [] => false

/-- Reads a number or a duration, the text starting with a digit or a point. -/
def readNumber? (s : List Char) : Option (Token × List Char) :=
  let hexadecimal? : Option (List Char) := match s with
    | '0' :: x :: rest => if x = 'x' || x = 'X' then some rest else none
    | _ => none
  match hexadecimal? with
  | some digits =>
    let rest := digits.dropWhile fun c => (Text.hexValue? c).isSome
    let run := digits.take (digits.length - rest.length)
    if run.isEmpty || startsWithWordChar rest || rest.head? = some '.' then none
    else (Text.hexNumber? run).map fun n => (.number (.ofInt n), rest)
  | none =>
    let (digits, rest) := splitNumber s
    if startsWithWordChar rest then
      let run := s.takeWhile isWordChar
      (DurationText.read? run).map fun ms => (.span ms, s.drop run.length)
    else (numberValue? digits).map fun value => (.number value, rest)

/-! ### Symbols -/

/-- The symbols of two characters. -/
def longSymbols : List (List Char) :=
  ["==".toList, "=~".toList, "!=".toList, "!~".toList, "<=".toList, ">=".toList]

/-- The symbols of one character. -/
def shortSymbols : List Char := "()\x7b\x7d[],=<>+-*/%^@".toList

/-- Reads a symbol. -/
def readSymbol? (s : List Char) : Option (Token × List Char) :=
  if longSymbols.contains (s.take 2) then some (.symbol (String.ofList (s.take 2)), s.drop 2)
  else match s with
    | c :: rest =>
      if shortSymbols.contains c then some (.symbol (String.ofList [c]), rest) else none
    | [] => none

/-! ### Texts -/

/-- Drops blanks and comments, which run from `#` to the end of the line. -/
def skipSpace (s : List Char) : List Char :=
  match s with
  | [] => []
  | c :: rest =>
    if isSpace c then skipSpace rest
    else if c = '#' then skipSpace (rest.dropWhile fun d => d ≠ '\n' && d ≠ '\r')
    else c :: rest
  termination_by s.length
  decreasing_by
    · simp
    · have := (List.dropWhile_suffix (fun d => d ≠ '\n' && d ≠ '\r') (l := rest)).length_le
      simp only [List.length_cons]; omega

/-- Reads the token in front of a text that starts with no blank. Inside square brackets the
colon stands by itself; elsewhere it is part of names. -/
def next? (inBrackets : Bool) (s : List Char) : Option (Token × List Char) :=
  match s with
  | [] => none
  | c :: rest =>
    if inBrackets && c = ':' then some (.symbol ":", rest)
    else if c.isDigit || (c = '.' && (rest.head?.map Char.isDigit).getD false) then readNumber? s
    else if c = '"' || c = '\'' then
      (readQuoted? c [] rest).map fun (value, tail) => (.text value, tail)
    else if c = '\x60' then (readRaw? rest).map fun (value, tail) => (.text value, tail)
    else if isLetter c || c = ':' then
      let keep := if inBrackets then isWordChar else isNameChar
      some (.word (String.ofList (s.takeWhile keep)), s.dropWhile keep)
    else readSymbol? s

/-- Reads the tokens of a text; `done` holds those so far, last first. -/
def scanFrom? (inBrackets : Bool) (done : List Token) (s : List Char) : Option (List Token) :=
  let body := skipSpace s
  if body.isEmpty then some done.reverse
  else match next? inBrackets body with
    | some (token, rest) =>
      if rest.length < s.length then
        let inside := (inBrackets || token = .symbol "[") && token ≠ .symbol "]"
        scanFrom? inside (token :: done) rest
      else none
    | none => none
  termination_by s.length

/-- Reads the tokens of a text. -/
def scan? (text : String) : Option (List Token) := scanFrom? false [] text.toList

end Token

end RuleFixtures.PromQL
