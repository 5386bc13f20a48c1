import RuleFixtures.Yaml.Resolve

/-!
Writing texts as YAML scalars.

A text is written plain when that reads back as the same text, else in single quotes, and in
double quotes when it has characters or breaks that the other styles cannot carry.

* `Scalar.isPlain` and `Scalar.isSingle` say when the first two styles will do.
* `Scalar.write` writes a text at an indentation, which only the breaks in single quotes need.
-/

namespace RuleFixtures.Yaml.Scalar

/-! ### Characters -/

/-- The line breaks of the format. -/
def isBreak (c : Char) : Bool :=
  c = '\n' || c = '\x85' || c = '\u2028' || c = '\u2029'

/-- What ends a word, beside the end of the text. -/
def isSpaceOrBreak (c : Char) : Bool :=
  isBreak c || c = ' ' || c = '\t' || c = '\r' || c = '\x00'

/-- Does the text end or go on with a space or a break? -/
def endsWord : List Char → Bool
  | [] => true
  | c :: _ => isSpaceOrBreak c

/-- Characters that only double quotes can carry. -/
def isSpecial (c : Char) : Bool :=
  let n := c.toNat
  !(c = '\n' || (0x20 ≤ n && n ≤ 0x7E) || n = 0x85 || (0xA0 ≤ n && n ≤ 0xD7FF) ||
    (0xE000 ≤ n && n ≤ 0xFFFD) || (0x10000 ≤ n && n < 0x10FFFF)) || n = 0xFEFF

/-- Characters that stand for themselves in double quotes. -/
def isRawInDouble (c : Char) : Bool :=
  let n := c.toNat
  c ≠ '"' && c ≠ '\\' && c ≠ '\x85' && c ≠ '\u2028' && c ≠ '\u2029' && c ≠ '\uFEFF' &&
    ((0x20 ≤ n && n ≤ 0x7E) || (0xA0 ≤ n && n ≤ 0xD7FF) || (0xE000 ≤ n && n ≤ 0xFFFD))

/-! ### Which style -/

/-- Does the text start like a mark of the format? -/
def hasLeadingMark : List Char → Bool
  | '-' :: '-' :: '-' :: _ => true
  | '.' :: '.' :: '.' :: _ => true
  | c :: rest =>
    "#,[]\x7b\x7d&*!|>'\"%@\x60".toList.contains c || ((c = '?' || c = '-') && endsWord rest)
  | [] => false

/-- Does a colon end a word, or a hash start one after a blank? -/
def hasInnerMark : List Char → Bool
  | [] => false
  | c :: rest =>
    (c = ':' && endsWord rest) || (isSpaceOrBreak c && rest.head? = some '#') || hasInnerMark rest

/-- Does a space stand right before or right behind a break? -/
def hasSpaceAtBreak : List Char → Bool
  | a :: b :: rest =>
    (a = ' ' && isBreak b) || (isBreak a && b = ' ') || hasSpaceAtBreak (b :: rest)
  | _ => false

/-- Is the character at an end a space or a break? -/
def isSpaceOrBreakEnd (c? : Option Char) : Bool :=
  match c? with
  | some c => c = ' ' || isBreak c
  | none => false

/-- May the text be written in single quotes? -/
def isSingle (s : List Char) : Bool := !s.any isSpecial && !hasSpaceAtBreak s

/-- May the text be written without quotes? -/
def isPlain (s : List Char) : Bool :=
  Resolve.isText s && isSingle s && !s.any isBreak && !hasLeadingMark s && !hasInnerMark s &&
    !isSpaceOrBreakEnd s.head? && !isSpaceOrBreakEnd s.getLast?

/-! ### The styles -/

/-- A line break and the blanks of an indentation. -/
def indentation (indent : Nat) : List Char := List.replicate indent ' '

/-- The text inside single quotes. Quotes are doubled. A run of breaks that starts with a line
feed takes one more, and is followed by the indentation. -/
def singleBody (indent : Nat) (inBreaks : Bool) : List Char → List Char
  | [] => if inBreaks then indentation indent else []
  | c :: rest =>
    if isBreak c then
      (if !inBreaks && c = '\n' then ['\n', '\n'] else [c]) ++ singleBody indent true rest
    else
      (if inBreaks then indentation indent else []) ++
        (if c = '\'' then ['\'', '\''] else [c]) ++ singleBody indent false rest

/-- The letters of the short escapes in double quotes. -/
def escapeLetters : List (Char × Char) :=
  [('\x00', '0'), ('\x07', 'a'), ('\x08', 'b'), ('\t', 't'), ('\n', 'n'), ('\x0b', 'v'),
   ('\x0c', 'f'), ('\r', 'r'), ('\x1b', 'e'), ('"', '"'), ('\\', '\\'), ('\x85', 'N'),
   ('\xA0', '_'), ('\u2028', 'L'), ('\u2029', 'P')]

/-- One character inside double quotes. -/
def doubleChar (c : Char) : List Char :=
  if isRawInDouble c then [c]
  else match lookupLetter c escapeLetters with
    | some letter => ['\\', letter]
    | none =>
      if c.toNat < 0x100 then '\\' :: 'x' :: Text.upperHexDigits 2 c.toNat
      else if c.toNat < 0x10000 then '\\' :: 'u' :: Text.upperHexDigits 4 c.toNat
      else '\\' :: 'U' :: Text.upperHexDigits 8 c.toNat
where
  /-- The letter of a character. -/
  lookupLetter (c : Char) (letters : List (Char × Char)) : Option Char :=
    (letters.find? fun entry => entry.1 = c).map Prod.snd

/-- Writes a text as a scalar at an indentation. -/
def writeList (indent : Nat) (s : List Char) : List Char :=
  if isPlain s then s
  else if isSingle s then '\'' :: singleBody indent false s ++ ['\'']
  else '"' :: s.flatMap doubleChar ++ ['"']

/-- Writes a text as a scalar at an indentation. -/
def write (indent : Nat) (text : String) : String := String.ofList (writeList indent text.toList)

end RuleFixtures.Yaml.Scalar
