import RuleFixtures.Console.Markup

/-!
What is written to the console, which has a number of cells in a line.

* `Message.columns` is that number: the environment gives it, else the terminal, else it is eighty.
* `Message.success` and `Message.warning` are status messages, `Message.header` is a title in a
  box, and `Message.line` a line that does not wrap. All of them read markup.
-/

namespace RuleFixtures.Console.Message

variable [Platform]

/-- The cells in a line without anything known of the console. -/
def usualColumns : Nat := 80

/-- The cells in a line: the number in the environment, or else the cells of the terminal if it has
any. -/
def columns (environment : List (String × String)) (terminal : Option Nat) : Nat :=
  let given := (environment.reverse.find? fun entry => entry.1 = "COLUMNS").map fun entry =>
    entry.2.toList
  match given.filter fun digits =>
      !digits.isEmpty && digits.all fun c => (Text.decimalValue? c).isSome with
  | some digits => Nat.ofDigitChars 10 (Text.foldDigits digits) 0
  | none => (terminal.filter (· ≠ 0)).getD usualColumns

/-- Lines with their ends. -/
def ended (lines : List (List Char)) : String :=
  String.ofList (lines.flatMap fun line => line ++ ['\n'])

/-- A text with markup that wraps. -/
def wrapped (width : Nat) (markup : String) : Except MarkupFault String := do
  let rendered ← Markup.render markup
  return ended (← rendered.lines (flow width))

/-- A status message on something done. -/
def success (width : Nat) (text : String) : Except MarkupFault String :=
  wrapped width ("[success]✓ " ++ text ++ "[/success]")

/-- A status message on something to look at. -/
def warning (width : Nat) (text : String) : Except MarkupFault String :=
  wrapped width ("[warning]⚠ " ++ text ++ "[/warning]")

/-- A line of a box, with a blank at both sides of its text. -/
def boxLine (width : Nat) (line : List Char) : List Char :=
  ['│', ' '] ++ Text.padCells (width - 4) line ++ [' ', '│']

/-- The upper or lower edge of a box between its corners, as far as the line goes. -/
def edge (width : Nat) (left right : Char) : List Char :=
  (left :: List.replicate (width - 2) '─' ++ [right]).take width

/-- The text of a title in its box. A box without a cell for it does not read it. -/
def boxText (width : Nat) (title : String) : Except MarkupFault (List (List Char)) := do
  if width ≤ 4 then return []
  else
    let rendered ← Markup.render ("[bold]" ++ title ++ "[/bold]")
    return (← rendered.lines (flow (width - 4))).map (boxLine width)

/-- A title in a box, behind an empty line. -/
def header (width : Nat) (title : String) : Except MarkupFault String := do
  let inner ← boxText width title
  if width = 0 then return ""
  else return ended ([] :: edge width '╭' '╮' :: inner ++ [edge width '╰' '╯'])

/-- A line that does not wrap. -/
def line (width : Nat) (markup : String) : Except MarkupFault String := do
  let rendered ← Markup.render markup
  return ended (← rendered.lines (unwrapped width))

end RuleFixtures.Console.Message
