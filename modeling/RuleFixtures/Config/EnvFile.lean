import RuleFixtures.OrderedMap
import RuleFixtures.Text.Blank

/-!
Files of environment variables.

A statement is a name, perhaps behind the word `export`, with an equals sign and a value. A value
in double or single quotes may hold line breaks and escapes; one without ends at the line, or at
a hash sign behind a blank. `${NAME}` and `${NAME:-default}` in a value stand for a variable of
the environment or of the statements before. Lines that are no statement are passed over.

* `EnvFile.statements` reads the statements of a text and `EnvFile.read` their values; a name
  without an equals sign has none.
-/

namespace RuleFixtures.EnvFile

/-- A blank within a line. -/
def isInlineBlank (c : Char) : Bool := Text.isBlank c && c ≠ '\r' && c ≠ '\n'

/-- Is the character a line break? -/
def isBreak (c : Char) : Bool := c = '\r' || c = '\n'

/-- A name and its value, if it has one. -/
abbrev Binding := String × Option String

/-! ### Parts of a statement -/

/-- Reads up to the closing quote. A quote behind a backslash closes only if no other does. -/
def readQuoted? (quote : Char) : List Char → Option (List Char × List Char)
  | [] => none
  | c :: rest =>
    if c = quote then some ([], rest)
    else if c = '\\' then
      match rest with
      | [] => none
      | next :: after =>
        if next = quote then
          match readQuoted? quote after with
          | some (value, tail) => some ('\\' :: quote :: value, tail)
          | none => some (['\\'], after)
        else (readQuoted? quote (next :: after)).map fun (value, tail) => ('\\' :: value, tail)
    else (readQuoted? quote rest).map fun (value, tail) => (c :: value, tail)

/-- The character that a letter behind a backslash stands for in double quotes. -/
def escape? : Char → Option Char
  | '\\' => some '\\'
  | '\'' => some '\''
  | '"' => some '"'
  | 'a' => some '\x07'
  | 'b' => some '\x08'
  | 'f' => some '\x0c'
  | 'n' => some '\n'
  | 'r' => some '\r'
  | 't' => some '\t'
  | 'v' => some '\x0b'
  | _ => none

/-- The character that a letter behind a backslash stands for in single quotes. -/
def plainEscape? : Char → Option Char
  | '\\' => some '\\'
  | '\'' => some '\''
  | _ => none

/-- Replaces escapes. -/
def unescape (escapes : Char → Option Char) : List Char → List Char
  | '\\' :: c :: rest => match escapes c with
    | some decoded => decoded :: unescape escapes rest
    | none => '\\' :: unescape escapes (c :: rest)
  | c :: rest => c :: unescape escapes rest
  | [] => []

/-- Cuts a value at a hash sign behind a blank. -/
def cutComment : List Char → List Char
  | [] => []
  | [c] => [c]
  | c :: next :: rest =>
    if Text.isBlank c && next = '#' then [] else c :: cutComment (next :: rest)

/-- Drops the blanks at the end. -/
def dropEnd (s : List Char) : List Char := (s.reverse.dropWhile Text.isBlank).reverse

/-- Reads a value behind the equals sign. -/
def readValue? (s : List Char) : Option (List Char × List Char) :=
  match s with
  | '\'' :: rest =>
    (readQuoted? '\'' rest).map fun (value, tail) => (unescape plainEscape? value, tail)
  | '"' :: rest => (readQuoted? '"' rest).map fun (value, tail) => (unescape escape? value, tail)
  | _ =>
    let line := s.takeWhile fun c => !isBreak c
    some (dropEnd (cutComment line), s.drop line.length)

/-- Drops the word `export` and the blanks behind it. -/
def dropExport (s : List Char) : List Char :=
  let word := "export".toList
  match s.drop word.length with
  | c :: rest => if word.isPrefixOf s && isInlineBlank c then rest.dropWhile isInlineBlank else s
  | [] => s

/-- Reads a name; a comment has none. -/
def readName? (s : List Char) : Option (Option (List Char) × List Char) :=
  match s with
  | '#' :: _ => some (none, s)
  | '\'' :: rest =>
    let name := rest.takeWhile (· ≠ '\'')
    match rest.drop name.length with
    | _ :: tail => if name.isEmpty then none else some (some name, tail)
    | [] => none
  | _ =>
    let name := s.takeWhile fun c => c ≠ '=' && c ≠ '#' && !Text.isBlank c
    if name.isEmpty then none else some (some name, s.drop name.length)

/-- Passes over blanks, a comment and the end of the line. -/
def readEnd? (s : List Char) : Option (List Char) :=
  match s.dropWhile isInlineBlank with
  | [] => some []
  | '\r' :: '\n' :: rest => some rest
  | c :: rest =>
    if isBreak c then some rest
    else if c = '#' then
      match rest.dropWhile fun x => !isBreak x with
      | '\r' :: '\n' :: tail => some tail
      | tail => some (tail.drop 1)
    else none

/-- Passes over the rest of a line. -/
def skipLine (s : List Char) : List Char := (s.dropWhile fun c => !isBreak c).drop 1

/-! ### Statements -/

/-- Takes what was read; else reading stops at `rest`. -/
def orStop {α : Type} (rest : List Char) : Option α → Except (List Char) α
  | some value => .ok value
  | none => .error rest

/-- Reads a statement and its line; a fault holds the text from where reading stopped. -/
def readStatement (s : List Char) : Except (List Char) (Option Binding × List Char) := do
  let start := dropExport s
  let (name?, rest) ← orStop start (readName? start)
  let rest := rest.dropWhile isInlineBlank
  let (value?, rest) ← match rest with
    | '=' :: tail => do
      let start := tail.dropWhile isInlineBlank
      let (value, after) ← orStop start (readValue? start)
      pure (some value, after)
    | _ => pure (none, rest)
  let tail ← orStop rest (readEnd? rest)
  return (name?.map fun name => (String.ofList name, value?.map String.ofList), tail)

/-- The statements of a text, at most `fuel` of them. The rest of a line that is no statement is
passed over. -/
def statementsFrom : (fuel : Nat) → List Char → List Binding
  | 0, _ => []
  | fuel + 1, s =>
    match s.dropWhile Text.isBlank with
    | [] => []
    | body => match readStatement body with
      | .ok (binding?, rest) => binding?.toList ++ statementsFrom fuel rest
      | .error rest => statementsFrom fuel (skipLine rest)

/-- The statements of a text: each takes at least one character. -/
def statements (text : String) : List Binding := statementsFrom (text.length + 1) text.toList

/-! ### Values -/

/-- The name and the default of a reference, behind its opening brace, and what follows it. -/
def readReference? (s : List Char) : Option (List Char × List Char × List Char) :=
  let name := s.takeWhile fun c => c ≠ '\x7d' && c ≠ ':'
  match s.drop name.length with
  | '\x7d' :: rest => some (name, [], rest)
  | ':' :: '-' :: rest =>
    let default := rest.takeWhile (· ≠ '\x7d')
    match rest.drop default.length with
    | _ :: tail => some (name, default, tail)
    | [] => none
  | _ => none

/-- Replaces references, at most `fuel` of them; a variable without a value is empty. -/
def expandFrom (valueOf : String → Option (Option String)) : (fuel : Nat) → List Char → List Char
  | 0, s => s
  | fuel + 1, s =>
    match s with
    | [] => []
    | '$' :: '\x7b' :: rest =>
      match readReference? rest with
      | some (name, default, tail) =>
        let value := match valueOf (String.ofList name) with
          | some value? => (value?.getD "").toList
          | none => default
        value ++ expandFrom valueOf fuel tail
      | none => '$' :: expandFrom valueOf fuel ('\x7b' :: rest)
    | c :: rest => c :: expandFrom valueOf fuel rest

/-- Replaces the references of a value. -/
def expand (valueOf : String → Option (Option String)) (value : String) : String :=
  String.ofList (expandFrom valueOf value.length value.toList)

/-- Adds a statement to those before. -/
def addBinding (environment : List (String × String))
    (known : OrderedMap String (Option String)) (binding : Binding) :
    OrderedMap String (Option String) :=
  let valueOf (name : String) : Option (Option String) :=
    match known.get? name with
    | some value? => some value?
    | none => (environment.reverse.find? fun entry => entry.1 = name).map fun entry => some entry.2
  known.insert binding.1 (binding.2.map (expand valueOf))

/-- The variables of a text; `environment` holds those of the process. -/
def read (environment : List (String × String)) (text : String) :
    OrderedMap String (Option String) :=
  (statements text).foldl (addBinding environment) .empty

end RuleFixtures.EnvFile
