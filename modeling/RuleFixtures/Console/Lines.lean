import RuleFixtures.Text.Blank
import RuleFixtures.Text.CellWidth

/-!
Lines on a console of a given width.

A word is a run of characters without white space, with the white space around it. Words go to
the next line when they do not fit; a word wider than a line starts a line of its own and is cut
at the width. Lines are made of items that show characters, so that what is noted of a character
stays with it; a character is such an item.

* `Item` is the class of what lines are made of.
* `expandTabs` replaces tabs by blanks up to the next multiple of eight.
* `breakLine` cuts a line into lines by its words; `chopCells` cuts a word.
* `flow` gives the lines of a text that wraps, `unwrapped` those of one that does not; without a
  cell there are none.
-/

namespace RuleFixtures.Console

/-- What lines are made of. -/
class Item (α : Type) where
  /-- The character that an item shows. -/
  char : α → Char
  /-- A blank in the place of an item. -/
  blank : α → α

instance : Item Char := ⟨id, fun _ => ' '⟩

variable {α : Type} [Item α]

/-! ### Characters and cells -/

/-- Does the item show white space? -/
def isBlank (item : α) : Bool := Text.isBlank (Item.char item)

/-- The cells that a line takes. -/
def cells (line : List α) : Nat := Text.cellLength (line.map Item.char)

/-- The pieces between line feeds; there is one piece more than line feeds. -/
def splitLines : List α → List (List α)
  | [] => [[]]
  | item :: rest =>
    if Item.char item = '\n' then [] :: splitLines rest
    else match splitLines rest with
      | piece :: pieces => (item :: piece) :: pieces
      | [] => [[item]]

/-- Replaces tabs by blanks; `column` counts the cells in front. -/
def expandTabsFrom (column : Nat) : List α → List α
  | [] => []
  | item :: rest =>
    if Item.char item = '\t' then
      List.replicate (8 - column % 8) (Item.blank item)
        ++ expandTabsFrom (column + (8 - column % 8)) rest
    else item :: expandTabsFrom (column + Text.cellWidth (Item.char item)) rest

/-- Replaces tabs by blanks up to the next multiple of eight. -/
def expandTabs (line : List α) : List α := expandTabsFrom 0 line

/-! ### Words -/

/-- The words of a line, each with the white space behind it; the first also with that in front.
White space alone is no word. -/
def blankedWords (line : List α) : List (List α) :=
  let lead := line.takeWhile isBlank
  match line.dropWhile isBlank with
  | [] => []
  | body => match gather body with
    | word :: rest => (lead ++ word) :: rest
    | [] => []
where
  /-- The words of a line that starts with one. -/
  gather : List α → List (List α)
    | [] => []
    | [item] => [[item]]
    | item :: next :: rest =>
      if isBlank item && !isBlank next then [item] :: gather (next :: rest)
      else match gather (next :: rest) with
        | word :: more => (item :: word) :: more
        | [] => [[item]]

/-- Cuts a text into parts of a width; `part` is the part in work, last item first, and `used` its
cells. -/
def chopCellsFrom (width used : Nat) (part : List α) : List α → List (List α)
  | [] => [part.reverse]
  | item :: rest =>
    let needed := Text.cellWidth (Item.char item)
    if width < used + needed then part.reverse :: chopCellsFrom width needed [item] rest
    else chopCellsFrom width (used + needed) (item :: part) rest

/-- Cuts a text into parts of a width; the first is empty if its first character does not fit. -/
def chopCells (width : Nat) (text : List α) : List (List α) := chopCellsFrom width 0 [] text

/-- Drops the white space at the end. -/
def dropEnd (text : List α) : List α := (text.reverse.dropWhile isBlank).reverse

/-- Puts words on lines; `line` is the line in work. A line is only left when something is on
it. -/
def placeWords (width : Nat) (line : List α) : List (List α) → List (List α)
  | [] => [line]
  | word :: rest =>
    let needed := cells (dropEnd word)
    if cells line + needed ≤ width then placeWords width (line ++ word) rest
    else
      let left := if line.isEmpty then [] else [line]
      if width < needed then
        let parts := chopCells width word
        let parts := if line.isEmpty then parts.dropWhile List.isEmpty else parts
        left ++ parts.dropLast ++ placeWords width (parts.getLast?.getD []) rest
      else left ++ placeWords width word rest

/-- Cuts a line into lines by its words. -/
def breakLine (width : Nat) (line : List α) : List (List α) :=
  match blankedWords line with
  | [] => [line]
  | found => placeWords width [] found

/-! ### Cutting lines -/

/-- Drops white space at the end of a line that has more characters than the width, as far as it
has more. -/
def cropBlanks (width : Nat) (line : List α) : List α :=
  let blanks := (line.reverse.takeWhile isBlank).length
  line.take (line.length - min blanks (line.length - width))

/-- Looks for a start of a line that is as wide as is asked, between two lengths, by halving; half a
wide character becomes a blank. Of several starts that differ in characters without a cell the
first one met is taken. -/
def cutBetween (width : Nat) (line : List α) : (fuel : Nat) → (low high : Nat) → List α
  | 0, _, _ => line
  | fuel + 1, low, high =>
    let middle := (low + high) / 2
    let start := line.take (middle + 1)
    match start.getLast? with
    | none => line
    | some last =>
      if cells start = width + 1 && Text.cellWidth (Item.char last) = 2 then
        start.dropLast ++ [Item.blank last]
      else if cells start = width then start
      else if width < cells start then cutBetween width line fuel low middle
      else cutBetween width line fuel middle high

/-- Cuts a line that is too wide. -/
def cutCells (width : Nat) (line : List α) : List α :=
  if cells line ≤ width then line else cutBetween width line (line.length + 1) 0 line.length

/-- The lines of a text that wraps. -/
def flow (width : Nat) (text : List α) : List (List α) :=
  if width = 0 then []
  else (splitLines text).flatMap fun line =>
    (breakLine width (expandTabs line)).map fun part => cutCells width (cropBlanks width part)

/-- The lines of a text that does not wrap. -/
def unwrapped (width : Nat) (text : List α) : List (List α) :=
  if width = 0 then []
  else (splitLines text).map fun line => cropBlanks width (expandTabs line)

end RuleFixtures.Console
