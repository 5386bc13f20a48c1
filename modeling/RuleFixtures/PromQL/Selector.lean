import RuleFixtures.PromQL.Pattern
import RuleFixtures.PromQL.Token

/-!
Selectors of series: a metric name, matchers of labels, a moment and an offset.

* `Selector.isWellFormed` is the condition on the matchers: patterns must be patterns, and without
  a metric name some matcher must refuse the empty text.
* `Selector.canonicalText` writes a selector: matchers sorted by their text, no braces without
  matchers, the moment before the offset.
-/

namespace RuleFixtures.PromQL

/-- How a matcher compares a label. -/
inductive MatchOp where
  | equal
  | notEqual
  | pattern
  | notPattern
  deriving DecidableEq

/-- The sign of a comparison. -/
def MatchOp.text : MatchOp → String
  | .equal => "="
  | .notEqual => "!="
  | .pattern => "=~"
  | .notPattern => "!~"

/-- A comparison of one label with a value or a pattern. -/
structure Matcher where
  label : String
  op : MatchOp
  value : String
  deriving DecidableEq

/-- A moment that the evaluation is pinned to. -/
inductive Moment where
  | start
  | finish
  /-- A number of milliseconds since the start of 1970. -/
  | instant (milliseconds : Int)
  deriving DecidableEq

/-- A selector of series. -/
structure Selector where
  name : Option String
  matchers : List Matcher
  /-- Groups of matchers of which one has to hold; used in place of `matchers`. -/
  alternatives : List (List Matcher)
  moment : Option Moment
  /-- The offset in milliseconds. -/
  offset : Option Int
  deriving DecidableEq

/-- The label that holds the metric name. -/
def metricNameLabel : String := "__name__"

/-- A name of a label that needs no quotes. -/
def isPlainLabel (label : String) : Bool :=
  match label.toList with
  | c :: rest => Token.isLetter c && rest.all Token.isWordChar
  | [] => false

/-! ### Which selectors are accepted -/

/-- Is the value of the matcher a pattern, where it has to be one? -/
def Matcher.isValid (m : Matcher) : Bool :=
  match m.op with
  | .pattern | .notPattern => (Pattern.matchesEmpty? m.value).isSome
  | _ => true

/-- Does the matcher accept a series without the label? -/
def Matcher.acceptsEmpty (m : Matcher) : Bool :=
  match m.op with
  | .equal => m.value = ""
  | .notEqual => m.value ≠ ""
  | .pattern => (Pattern.matchesEmpty? m.value).getD false
  | .notPattern => !(Pattern.matchesEmpty? m.value).getD false

/-- All matchers of a selector, those of alternatives included. -/
def Selector.allMatchers (s : Selector) : List Matcher := s.matchers ++ s.alternatives.flatten

/-- A selector is accepted when its patterns are patterns and when it says what to select: by a
metric name that no matcher repeats, or by a matcher that refuses the empty text. -/
def Selector.isWellFormed (s : Selector) : Bool :=
  s.allMatchers.all Matcher.isValid &&
    match s.name with
    | some _ => s.allMatchers.all fun m => m.label ≠ metricNameLabel
    | none => s.allMatchers.any fun m => !m.acceptsEmpty

/-! ### The canonical text -/

/-- One character of a value in double quotes. -/
def valueChar (c : Char) : List Char :=
  if c = '\\' then ['\\', '\\']
  else if c = '"' then ['\\', '"']
  else if c = '\n' then ['\\', 'n']
  else if c = '\r' then ['\\', 'r']
  else if c = '\t' then ['\\', 't']
  else [c]

/-- A value in double quotes. -/
def valueText (value : String) : String :=
  String.ofList ('"' :: value.toList.flatMap valueChar ++ ['"'])

/-- The text of a matcher. -/
def Matcher.text (m : Matcher) : String :=
  (if isPlainLabel m.label then m.label else valueText m.label) ++ m.op.text ++ valueText m.value

/-- Texts with a separator between them. -/
def joinTexts (separator : String) (texts : List String) : String :=
  String.intercalate separator texts

/-- The texts of all matchers: a list sorted by its texts, or groups in their order. -/
def Selector.matchersText (s : Selector) : String :=
  if s.alternatives.isEmpty then
    joinTexts "," ((s.matchers.map Matcher.text).mergeSort fun a b => decide (a ≤ b))
  else joinTexts " or " (s.alternatives.map fun group => joinTexts ", " (group.map Matcher.text))

/-- The text of a moment; seconds have three decimals and are not negative. -/
def Moment.text : Moment → String
  | .start => "start()"
  | .finish => "end()"
  | .instant ms =>
    let n := ms.toNat
    let fraction := toString (n % 1000)
    toString (n / 1000) ++ "." ++ "".pushn '0' (3 - fraction.length) ++ fraction

/-- The text of an offset. -/
def offsetText (ms : Int) : String :=
  (if ms < 0 then "-" else "") ++ DurationText.writeWhole ms.natAbs

/-- The text of a selector, the same for selectors that differ only in spelling or in the order of
their matchers. -/
def Selector.canonicalText (s : Selector) : String :=
  let inner := s.matchersText
  s.name.getD "" ++ (if inner = "" then "" else "\x7b" ++ inner ++ "\x7d") ++
    (match s.moment with
      | some moment => " @ " ++ moment.text
      | none => "") ++
    (match s.offset with
      | some ms => " offset " ++ offsetText ms
      | none => "")

end RuleFixtures.PromQL
