import RuleFixtures.Number.DecimalReader
import RuleFixtures.Yaml.Writer

/-!
Reading documents in YAML 1.1.

Read is the part of the format in which documents are written: objects and lists in block style,
plain texts and numbers with a point on one line, texts in quotes, and empty lists and objects in
brackets. All else is left unread.

The breaks in single quotes are folded: one break reads as a space, and of several the first is
dropped, unless it is one of the two separators U+2028 and U+2029. Spaces around breaks do not
count. A next line, U+0085, is a break like a line feed, and reads as one.

* `Scalar.read?` reads a scalar up to the end of its line, `readMembers?` and `readItems?` read
  blocks.
* `read?` reads a document that is an object. `readBy?` leaves open as what the breaks in single
  quotes read.
-/

namespace RuleFixtures.Yaml

namespace Scalar

/-! ### Single quotes -/

/-- What stands between two other characters: spaces, or breaks with spaces around them. -/
structure Gap where
  spaces : Nat := 0
  breaks : List Char := []

namespace Gap

/-- A gap with one more space, which does not count beside breaks. -/
def space (gap : Gap) : Gap :=
  if gap.breaks = [] then { gap with spaces := gap.spaces + 1 } else gap

/-- A gap with one more break. -/
def withBreak (c : Char) (gap : Gap) : Gap := { gap with breaks := gap.breaks ++ [c] }

/-- Folds breaks: one line feed is a space, and the first of several is dropped. -/
def fold : List Char → List Char
  | [] => []
  | c :: more => if c = '\n' then (if more = [] then [' '] else more) else c :: more

/-- What a gap reads as. -/
def text (gap : Gap) : List Char :=
  if gap.breaks = [] then List.replicate gap.spaces ' ' else fold gap.breaks

end Gap

/-- Does a line start like the mark between two documents? -/
def startsDocument (s : List Char) : Bool :=
  "---".toList.isPrefixOf s || "...".toList.isPrefixOf s

/-- Reads the rest of a text in single quotes, behind a gap. A quote is written twice. -/
def readSingle? (asBreak : Char → Char) (gap : Gap) : List Char → Option (List Char × List Char)
  | [] => none
  | '\'' :: '\'' :: rest =>
    (readSingle? asBreak {} rest).map fun (s, after) => (gap.text ++ '\'' :: s, after)
  | c :: rest =>
    if c = '\'' then some (gap.text, rest)
    else if c = ' ' then readSingle? asBreak gap.space rest
    else if isBreak c then
      if startsDocument rest then none else readSingle? asBreak (gap.withBreak (asBreak c)) rest
    else if isSpecial c then none
    else (readSingle? asBreak {} rest).map fun (s, after) => (gap.text ++ c :: s, after)

theorem readSingle?_space (asBreak : Char → Char) (gap : Gap) (rest : List Char) :
    readSingle? asBreak gap (' ' :: rest) = readSingle? asBreak gap.space rest := by
  rw [readSingle?, if_neg (by decide), if_pos rfl]
  simp

/-! ### Double quotes -/

/-- The character of an escape with a letter. -/
def ofLetter? (letter : Char) : Option Char :=
  (escapeLetters.find? fun entry => entry.2 = letter).map Prod.fst

/-- The character of an escape with a code. -/
def ofCode? (digits : List Char) : Option Char := do
  let code ← Text.hexNumber? digits
  if code.isValidChar then some (Char.ofNat code) else none

/-- Reads the rest of a text in double quotes on one line. -/
def readDouble? : List Char → Option (List Char × List Char)
  | [] => none
  | '"' :: rest => some ([], rest)
  | '\\' :: 'x' :: a :: b :: rest => do
    let c ← ofCode? [a, b]
    let (s, after) ← readDouble? rest
    return (c :: s, after)
  | '\\' :: 'u' :: a :: b :: d :: e :: rest => do
    let c ← ofCode? [a, b, d, e]
    let (s, after) ← readDouble? rest
    return (c :: s, after)
  | '\\' :: 'U' :: a :: b :: d :: e :: f :: g :: h :: i :: rest => do
    let c ← ofCode? [a, b, d, e, f, g, h, i]
    let (s, after) ← readDouble? rest
    return (c :: s, after)
  | '\\' :: letter :: rest => do
    let c ← ofLetter? letter
    let (s, after) ← readDouble? rest
    return (c :: s, after)
  | c :: rest =>
    if isRawInDouble c then (readDouble? rest).map fun (s, after) => (c :: s, after) else none

theorem readDouble?_raw {c : Char} (hraw : isRawInDouble c = true) (rest : List Char) :
    readDouble? (c :: rest) = (readDouble? rest).map fun (s, after) => (c :: s, after) := by
  have hquote : c ≠ '"' := by
    rintro rfl
    exact absurd hraw (by decide)
  have hslash : c ≠ '\\' := by
    rintro rfl
    exact absurd hraw (by decide)
  rw [readDouble?, if_pos hraw]
  all_goals simp [hquote, hslash]

/-! ### Scalars -/

/-- Reads a number with a point, or one of the words for infinity and what is not a number. -/
def readFloat? (s : List Char) : Option Binary64 :=
  let (negative, body) := DecimalReader.splitSign s
  if s = ".nan".toList then some .nan
  else if body = ".inf".toList then some (.infinite negative)
  else DecimalReader.readDecimal? negative body

/-- Reads a scalar without quotes. -/
def readPlain? (s : List Char) : Option Json :=
  if s.any isSpecial || hasLeadingMark s || hasInnerMark s || isSpaceOrBreakEnd s.head? ||
      isSpaceOrBreakEnd s.getLast? then none
  else if Resolve.isText s then some (.text (String.ofList s))
  else if Resolve.isFloat s then (readFloat? s).map .float
  else none

/-- Ends a line. -/
def endLine? {α : Type} : α × List Char → Option (α × List Char)
  | (value, '\n' :: rest) => some (value, rest)
  | _ => none

/-- Reads a scalar and the end of its line. -/
def read? (asBreak : Char → Char) : List Char → Option (Json × List Char)
  | '\'' :: rest => do
    let (s, after) ← readSingle? asBreak {} rest
    endLine? (.text (String.ofList s), after)
  | '"' :: rest => do
    let (s, after) ← readDouble? rest
    endLine? (.text (String.ofList s), after)
  | '[' :: ']' :: rest => endLine? (.list [], rest)
  | '\x7b' :: '\x7d' :: rest => endLine? (.object [], rest)
  | s => do
    let line := s.takeWhile fun c => !isBreak c
    endLine? (← readPlain? line, s.drop line.length)

end Scalar

/-! ### Blocks -/

/-- The letters of keys. -/
def isKeyChar (c : Char) : Bool := c.isAlpha || c = '_'

/-- Reads a key and its colon, which a space or the end of the line follows. -/
def readKey? (s : List Char) : Option (String × List Char) :=
  let word := s.takeWhile isKeyChar
  match s.drop word.length with
  | ':' :: c :: rest =>
    if (c = ' ' || c = '\n') && word.length ≤ 128 && Resolve.isText word then
      some (String.ofList word, c :: rest)
    else none
  | _ => none

/-- The column at which a line starts, and the line from there on. -/
def splitIndent (s : List Char) : Nat × List Char :=
  ((s.takeWhile (· = ' ')).length, s.dropWhile (· = ' '))

/-- Does a line start with an item? -/
def startsItem : List Char → Bool
  | '-' :: ' ' :: _ => true
  | _ => false

mutual

/-- Reads members at an indentation up to the end of their block; `done` holds those read. -/
def readMembers? (asBreak : Char → Char) : (fuel : Nat) → (indent : Nat) →
    (done : List (String × Json)) → List Char → Option (Json × List Char)
  | 0, _, _, _ => none
  | fuel + 1, indent, done, s => do
    let (name, rest) ← readKey? s
    let (value, rest) ← readMemberValue? asBreak fuel indent rest
    let members := Json.setMember name value done
    let (column, line) := splitIndent rest
    if rest = [] ∨ column < indent then some (.object members, rest)
    else if column = indent then readMembers? asBreak fuel indent members line
    else none

/-- Reads the value of a member, behind its colon: a scalar on the same line, or a block on the
lines below. A list may stand at the indentation of its key. -/
def readMemberValue? (asBreak : Char → Char) : (fuel : Nat) → (indent : Nat) →
    List Char → Option (Json × List Char)
  | 0, _, _ => none
  | _ + 1, _, ' ' :: rest => Scalar.read? asBreak rest
  | fuel + 1, indent, '\n' :: rest =>
    let (column, line) := splitIndent rest
    if startsItem line then
      if indent ≤ column then readItems? asBreak fuel column [] line else none
    else if indent < column then readMembers? asBreak fuel column [] line
    else none
  | _, _, _ => none

/-- Reads items at an indentation up to the end of their block; `done` holds those read, last
first. -/
def readItems? (asBreak : Char → Char) : (fuel : Nat) → (indent : Nat) → (done : List Json) →
    List Char → Option (Json × List Char)
  | fuel + 1, indent, done, '-' :: ' ' :: s => do
    let (item, rest) ← readItemValue? asBreak fuel (indent + 2) s
    let (column, line) := splitIndent rest
    if rest = [] ∨ column < indent then some (.list (item :: done).reverse, rest)
    else if column = indent then
      if startsItem line then readItems? asBreak fuel indent (item :: done) line
      else some (.list (item :: done).reverse, rest)
    else none
  | _, _, _, _ => none

/-- Reads an item that starts at a column: a block or a scalar. -/
def readItemValue? (asBreak : Char → Char) : (fuel : Nat) → (column : Nat) →
    List Char → Option (Json × List Char)
  | 0, _, _ => none
  | fuel + 1, column, s =>
    if startsItem s then readItems? asBreak fuel column [] s
    else if (readKey? s).isSome then readMembers? asBreak fuel column [] s
    else Scalar.read? asBreak s

end

/-- Reads a document that is an object, given as what each break in single quotes reads. -/
def readBy? (asBreak : Char → Char) (text : String) : Option Json := do
  let s := text.toList
  let (value, rest) ← readMembers? asBreak s.length 0 [] s
  if rest = [] then some value else none

/-- A next line reads as a line feed. -/
def lineFeed (c : Char) : Char := if c = '\x85' then '\n' else c

/-- Reads a document that is an object. -/
def read? (text : String) : Option Json := readBy? lineFeed text

end RuleFixtures.Yaml
