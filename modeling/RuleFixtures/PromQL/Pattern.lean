import RuleFixtures.Text.Blank
import RuleFixtures.Text.Hex

/-!
The patterns of label matchers: which texts are patterns, and which patterns match the empty text.

A pattern is anchored at both ends. The syntax has alternatives, groups with names or flags,
repetitions, classes, classes by Unicode property and assertions of position; it has neither
look-around nor back-references. A brace that starts no repetition may be taken literally.

* `Pattern.matchesEmpty?` reads a pattern and tells whether it matches the empty text.
-/

namespace RuleFixtures.PromQL.Pattern

/-! ### Single characters -/

/-- Reads so many hexadecimal digits, or any number of them in braces. -/
def readHex? (width : Nat) (s : List Char) : Option (Nat × List Char) :=
  match s with
  | '\x7b' :: rest =>
    let run := rest.takeWhile fun c => (Text.hexValue? c).isSome
    match rest.drop run.length with
    | '\x7d' :: tail => if run.isEmpty then none else (Text.hexNumber? run).map (·, tail)
    | _ => none
  | _ =>
    if (s.take width).length = width then
      (Text.hexNumber? (s.take width)).map (·, s.drop width)
    else none

/-- A scalar value of Unicode? -/
def isScalar (n : Nat) : Bool := n < 0x110000 && !(0xD800 ≤ n && n ≤ 0xDFFF)

/-- The names that may follow `\p`: a general category by one letter, or a name in braces. -/
def readProperty? (s : List Char) : Option (List Char) :=
  match s with
  | '\x7b' :: rest =>
    let name := rest.takeWhile (· ≠ '\x7d')
    match rest.drop name.length with
    | _ :: tail =>
      let word := if name.head? = some '^' then name.tail else name
      let isWordChar (c : Char) : Bool := c.isAlphanum || c = '_' || c = '=' || c = '-' || c = ' '
      if !word.isEmpty && word.all isWordChar then some tail else none
    | [] => none
  | c :: rest => if "LMNPSZC".toList.contains c then some rest else none
  | [] => none

/-- What a backslash and what follows it stand for. -/
inductive Escape where
  /-- A character by its code point. -/
  | literal (code : Nat)
  /-- One of a class of characters. -/
  | oneOf
  /-- An assertion of position, with its truth in the empty text. -/
  | position (holdsInEmpty : Bool)

/-- Reads an escape, behind its backslash. -/
def readEscape? (s : List Char) : Option (Escape × List Char) :=
  match s with
  | [] => none
  | c :: rest =>
    let scalar (found : Option (Nat × List Char)) : Option (Escape × List Char) :=
      found.bind fun (n, tail) => if isScalar n then some (.literal n, tail) else none
    match c with
    | 'd' | 'D' | 's' | 'S' | 'w' | 'W' => some (.oneOf, rest)
    | 'A' | 'z' | 'B' => some (.position true, rest)
    | 'b' =>
      let word := ["start", "end", "start-half", "end-half"].find? fun name =>
        ("\x7b" ++ name ++ "\x7d").toList.isPrefixOf rest
      match word with
      | some name => some (.position (name = "start-half" || name = "end-half"),
          rest.drop (name.length + 2))
      | none => some (.position false, rest)
    | '<' | '>' => some (.position false, rest)
    | 'p' | 'P' => (readProperty? rest).map (.oneOf, ·)
    | 'x' => scalar (readHex? 2 rest)
    | 'u' => scalar (readHex? 4 rest)
    | 'U' => scalar (readHex? 8 rest)
    | 'a' => some (.literal 7, rest)
    | 'f' => some (.literal 12, rest)
    | 't' => some (.literal 9, rest)
    | 'n' => some (.literal 10, rest)
    | 'r' => some (.literal 13, rest)
    | 'v' => some (.literal 11, rest)
    | _ =>
      if c.toNat < 0x80 && !c.isAlphanum then some (.literal c.toNat, rest) else none

/-! ### Classes in brackets -/

/-- The classes with a name between colons. -/
def namedClasses : List String :=
  ["alnum", "alpha", "ascii", "blank", "cntrl", "digit", "graph", "lower", "print", "punct",
   "space", "upper", "word", "xdigit"]

/-- Reads a class with a name, behind its opening bracket. -/
def readNamedClass? (s : List Char) : Option (List Char) :=
  namedClasses.findSome? fun name =>
    let plain := (":" ++ name ++ ":]").toList
    let negated := (":^" ++ name ++ ":]").toList
    if plain.isPrefixOf s then some (s.drop plain.length)
    else if negated.isPrefixOf s then some (s.drop negated.length)
    else none

/-- Reads a member of a class: its code point, or none for a class within it. -/
def readMember? (s : List Char) : Option (Option Nat × List Char) :=
  match s with
  | [] => none
  | '\\' :: rest => match readEscape? rest with
    | some (.literal code, tail) => some (some code, tail)
    | some (.oneOf, tail) => some (none, tail)
    | _ => none
  | c :: rest => some (some c.toNat, rest)

/-- What a class starts with, behind its opening bracket: a negation and leading hyphens. Are there
hyphens, and what follows? -/
def classStart (s : List Char) : Bool × List Char :=
  let body := if s.head? = some '^' then s.tail else s
  let members := body.dropWhile (· = '-')
  (members.length < body.length, members)

/-- Reads the members of a class up to its closing bracket; `started` tells whether one has been
read. -/
def readClass? : (fuel : Nat) → (started : Bool) → List Char → Option (List Char)
  | 0, _, _ => none
  | fuel + 1, started, s =>
    match s with
    | [] => none
    | ']' :: rest => if started then some rest else readClass? fuel true rest
    | '[' :: rest => match readNamedClass? rest with
      | some tail => readClass? fuel true tail
      | none =>
        let (hyphens, members) := classStart rest
        (readClass? fuel hyphens members).bind (readClass? fuel true)
    | '&' :: '&' :: rest => readClass? fuel true rest
    | '-' :: '-' :: rest => readClass? fuel true rest
    | '~' :: '~' :: rest => readClass? fuel true rest
    | _ => do
      let (low, rest) ← readMember? s
      match rest with
      | '-' :: ']' :: _ => readClass? fuel true rest
      | '-' :: '-' :: _ => readClass? fuel true rest
      | '-' :: tail =>
        let (high, after) ← readMember? tail
        match low, high with
        | some a, some b => if a ≤ b then readClass? fuel true after else none
        | _, _ => none
      | _ => readClass? fuel true rest

/-! ### Repetitions and groups -/

/-- Reads a count, with blanks around it. -/
def readCount? (s : List Char) : Option (Nat × List Char) :=
  let body := s.dropWhile Text.isBlank
  let run := body.takeWhile Char.isDigit
  if run.isEmpty then none
  else
    let n := Nat.ofDigitChars 10 run 0
    if n < Nat.pow 2 32 then some (n, (body.drop run.length).dropWhile Text.isBlank) else none

/-- Reads the bounds of a repetition, behind the opening brace: the least count. -/
def readBounds? (s : List Char) : Option (Nat × List Char) := do
  let (least, rest) ← readCount? s
  match rest with
  | '\x7d' :: tail => some (least, tail)
  | ',' :: '\x7d' :: tail => some (least, tail)
  | ',' :: tail => do
    let (most, rest) ← readCount? tail
    match rest with
    | '\x7d' :: after => if least ≤ most then some (least, after) else none
    | _ => none
  | _ => none

/-- Drops the mark of a repetition that prefers few rounds. -/
def dropLazy : List Char → List Char
  | '?' :: rest => rest
  | s => s

/-- Reads the repetitions behind a piece that matches the empty text or does not. -/
def readRepeats? : (fuel : Nat) → (empty : Bool) → List Char → Option (Bool × List Char)
  | 0, _, _ => none
  | fuel + 1, empty, s =>
    match s with
    | '*' :: rest => readRepeats? fuel true (dropLazy rest)
    | '?' :: rest => readRepeats? fuel true (dropLazy rest)
    | '+' :: rest => readRepeats? fuel empty (dropLazy rest)
    | '\x7b' :: rest => do
      let (least, tail) ← readBounds? rest
      readRepeats? fuel (empty || least = 0) (dropLazy tail)
    | _ => some (empty, s)

/-- The flags of a group are letters, each once, and at most one minus, which a letter
follows. -/
def areFlags (flags : List Char) : Bool :=
  let letters := flags.filter (· ≠ '-')
  !letters.isEmpty && letters.all "imsUuxR".toList.contains && letters.eraseDups = letters &&
    (flags.filter (· = '-')).length ≤ 1 && flags.getLast? ≠ some '-'

/-- Reads the name of a group and the angle bracket behind it. -/
def readGroupName? (s : List Char) : Option (List Char) :=
  let name := s.takeWhile (· ≠ '>')
  let isStart (c : Char) : Bool := c.isAlpha || c = '_'
  match name, s.drop name.length with
  | c :: rest, _ :: tail =>
    if isStart c && rest.all (fun d => d.isAlphanum || d = '_' || d = '.' || d = '[' || d = ']')
    then some tail else none
  | _, _ => none

/-- The opening of a group, behind its bracket. -/
inductive GroupStart where
  /-- A group whose content follows. -/
  | content (rest : List Char)
  /-- Flags for what comes after; no group. -/
  | flags (rest : List Char)

/-- Reads the opening of a group. -/
def readGroupStart? (s : List Char) : Option GroupStart :=
  match s with
  | '?' :: 'P' :: '<' :: rest => (readGroupName? rest).map .content
  | '?' :: '<' :: rest => (readGroupName? rest).map .content
  | '?' :: ':' :: rest => some (.content rest)
  | '?' :: rest =>
    let letters := rest.takeWhile fun c => c.isAlpha || c = '-'
    if areFlags letters then
      match rest.drop letters.length with
      | ':' :: tail => some (.content tail)
      | ')' :: tail => some (.flags tail)
      | _ => none
    else none
  | _ => some (.content s)

mutual

/-- Reads alternatives up to a closing bracket or the end; tells whether one of them matches the
empty text. -/
def readAlternatives? : (fuel : Nat) → List Char → Option (Bool × List Char)
  | 0, _ => none
  | fuel + 1, s => do
    let (empty, rest) ← readSequence? fuel true s
    match rest with
    | '|' :: tail => do
      let (other, after) ← readAlternatives? fuel tail
      some (empty || other, after)
    | _ => some (empty, rest)

/-- Reads the pieces of an alternative; `empty` tells whether those so far match the empty
text. -/
def readSequence? : (fuel : Nat) → (empty : Bool) → List Char → Option (Bool × List Char)
  | 0, _, _ => none
  | fuel + 1, empty, s =>
    let goOn (piece : Bool) (rest : List Char) : Option (Bool × List Char) := do
      let (repeated, tail) ← readRepeats? (rest.length + 1) piece rest
      readSequence? fuel (empty && repeated) tail
    match s with
    | [] => some (empty, [])
    | '|' :: _ => some (empty, s)
    | ')' :: _ => some (empty, s)
    | '*' :: _ => none
    | '+' :: _ => none
    | '?' :: _ => none
    | '\x7b' :: _ => none
    | '^' :: rest => goOn true rest
    | '$' :: rest => goOn true rest
    | '\\' :: rest => do
      let (escape, tail) ← readEscape? rest
      match escape with
      | .position holds => goOn holds tail
      | _ => goOn false tail
    | '[' :: rest => do
      let (hyphens, members) := classStart rest
      let tail ← readClass? (rest.length + 1) hyphens members
      goOn false tail
    | '(' :: rest => do
      match ← readGroupStart? rest with
      | .flags tail => readSequence? fuel empty tail
      | .content content =>
        let (inner, tail) ← readAlternatives? fuel content
        match tail with
        | ')' :: after => goOn inner after
        | _ => none
    | _ :: rest => goOn false rest

end

/-- Reads a pattern that fills its text. -/
def read? (s : List Char) : Option Bool := do
  let (empty, rest) ← readAlternatives? (2 * s.length + 2) s
  if rest.isEmpty then some empty else none

/-! ### Braces taken literally -/

/-- The characters behind an opening brace up to where it is settled whether they are the bounds of
a repetition; and whether they are. -/
def readBraces (seen : List Char) (comma : Bool) : List Char → Bool × List Char × List Char
  | [] => (false, seen.reverse, [])
  | c :: rest =>
    if c = ',' then
      if comma || seen.isEmpty then (false, (c :: seen).reverse, rest)
      else readBraces (c :: seen) true rest
    else if c = '\x7d' then (!seen.isEmpty, (c :: seen).reverse, rest)
    else if c.isDigit then readBraces (c :: seen) comma rest
    else (false, (c :: seen).reverse, rest)

/-- Puts a backslash in front of each opening brace that starts no repetition. -/
def escapeBraces : (fuel : Nat) → List Char → List Char
  | 0, s => s
  | _, [] => []
  | fuel + 1, c :: rest =>
    if c = '\\' then match rest with
      | d :: tail => c :: d :: escapeBraces fuel tail
      | [] => []
    else if c = '\x7b' then
      let (isRepetition, run, tail) := readBraces [] false rest
      let opening := if isRepetition then [c] else ['\\', c]
      opening ++ run ++ escapeBraces fuel tail
    else c :: escapeBraces fuel rest

/-- Does the pattern, anchored at both ends, match the empty text? None if it is no pattern, even
with braces taken literally. -/
def matchesEmpty? (pattern : String) : Option Bool :=
  let anchored := "^(?:".toList ++ pattern.toList ++ ")$".toList
  match read? anchored with
  | some empty => some empty
  | none => read? (escapeBraces anchored.length anchored)

end RuleFixtures.PromQL.Pattern
