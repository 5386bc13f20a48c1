import RuleFixtures.Fault
import RuleFixtures.Text.Blank
import RuleFixtures.Text.Digit
import RuleFixtures.Text.LetterCase
import RuleFixtures.Text.Split

/-!
The names of console styles.

A style is written as words: attributes, which may be negated, a colour, a background colour and
a link. Two spellings of one style have the same normal form.

* `Style.read` reads the words; `StyleFault` tells words that are no style from colours whose
  numbers do not read.
* `Style.write` writes the normal form, attributes first.
* `Style.normalize` is the normal form of a style; other names are trimmed and lower-cased.
-/

namespace RuleFixtures.Console

/-- A style: attributes that are on or off, colours and a link. -/
structure Style where
  attributes : List (String × Bool)
  color : Option String
  background : Option String
  link : Option String

/-- Why a text is no style. -/
inductive StyleFault where
  | unknown
  /-- A colour has no numbers where it should have some. -/
  | number (fault : NumberFault)
  deriving DecidableEq

namespace Style

/-- The style that changes nothing. -/
def plain : Style := ⟨[], none, none, none⟩

/-- The attributes, in the order of the normal form. -/
def attributeNames : List String :=
  ["bold", "dim", "italic", "underline", "blink", "blink2", "reverse", "conceal", "strike",
   "underline2", "frame", "encircle", "overline"]

/-- The short names of attributes. -/
def shortNames : List (String × String) :=
  [("b", "bold"), ("d", "dim"), ("i", "italic"), ("u", "underline"), ("r", "reverse"),
   ("c", "conceal"), ("s", "strike"), ("uu", "underline2"), ("o", "overline")]

/-- The attribute of a word. -/
def attribute? (word : String) : Option String :=
  if attributeNames.contains word then some word
  else (shortNames.find? fun entry => entry.1 = word).map Prod.snd

/-- The names of colours. -/
def colorNames : List String :=
  ["black", "red", "green", "yellow", "blue", "magenta", "cyan", "white", "bright_black",
   "bright_red", "bright_green", "bright_yellow", "bright_blue", "bright_magenta", "bright_cyan",
   "bright_white", "grey0", "gray0", "navy_blue", "dark_blue", "blue3", "blue1", "dark_green",
   "deep_sky_blue4", "dodger_blue3", "dodger_blue2", "green4", "spring_green4", "turquoise4",
   "deep_sky_blue3", "dodger_blue1", "green3", "spring_green3", "dark_cyan", "light_sea_green",
   "deep_sky_blue2", "deep_sky_blue1", "spring_green2", "cyan3", "dark_turquoise", "turquoise2",
   "green1", "spring_green1", "medium_spring_green", "cyan2", "cyan1", "dark_red", "deep_pink4",
   "purple4", "purple3", "blue_violet", "orange4", "grey37", "gray37", "medium_purple4",
   "slate_blue3", "royal_blue1", "chartreuse4", "dark_sea_green4", "pale_turquoise4", "steel_blue",
   "steel_blue3", "cornflower_blue", "chartreuse3", "cadet_blue", "sky_blue3", "steel_blue1",
   "pale_green3", "sea_green3", "aquamarine3", "medium_turquoise", "chartreuse2", "sea_green2",
   "sea_green1", "aquamarine1", "dark_slate_gray2", "dark_magenta", "dark_violet", "purple",
   "light_pink4", "plum4", "medium_purple3", "slate_blue1", "yellow4", "wheat4", "grey53", "gray53",
   "light_slate_grey", "light_slate_gray", "medium_purple", "light_slate_blue", "dark_olive_green3",
   "dark_sea_green", "light_sky_blue3", "sky_blue2", "dark_sea_green3", "dark_slate_gray3",
   "sky_blue1", "chartreuse1", "light_green", "pale_green1", "dark_slate_gray1", "red3",
   "medium_violet_red", "magenta3", "dark_orange3", "indian_red", "hot_pink3", "medium_orchid3",
   "medium_orchid", "medium_purple2", "dark_goldenrod", "light_salmon3", "rosy_brown", "grey63",
   "gray63", "medium_purple1", "gold3", "dark_khaki", "navajo_white3", "grey69", "gray69",
   "light_steel_blue3", "light_steel_blue", "yellow3", "dark_sea_green2", "light_cyan3",
   "light_sky_blue1", "green_yellow", "dark_olive_green2", "dark_sea_green1", "pale_turquoise1",
   "deep_pink3", "magenta2", "hot_pink2", "orchid", "medium_orchid1", "orange3", "light_pink3",
   "pink3", "plum3", "violet", "light_goldenrod3", "tan", "misty_rose3", "thistle3", "plum2",
   "khaki3", "light_goldenrod2", "light_yellow3", "grey84", "gray84", "light_steel_blue1",
   "yellow2", "dark_olive_green1", "honeydew2", "light_cyan1", "red1", "deep_pink2", "deep_pink1",
   "magenta1", "orange_red1", "indian_red1", "hot_pink", "dark_orange", "salmon1", "light_coral",
   "pale_violet_red1", "orchid2", "orchid1", "orange1", "sandy_brown", "light_salmon1",
   "light_pink1", "pink1", "plum1", "gold1", "navajo_white1", "misty_rose1", "thistle1", "yellow1",
   "light_goldenrod1", "khaki1", "wheat1", "cornsilk1", "grey100", "gray100", "grey3", "gray3",
   "grey7", "gray7", "grey11", "gray11", "grey15", "gray15", "grey19", "gray19", "grey23", "gray23",
   "grey27", "gray27", "grey30", "gray30", "grey35", "gray35", "grey39", "gray39", "grey42",
   "gray42", "grey46", "gray46", "grey50", "gray50", "grey54", "gray54", "grey58", "gray58",
   "grey62", "gray62", "grey66", "gray66", "grey70", "gray70", "grey74", "gray74", "grey78",
   "gray78", "grey82", "gray82", "grey85", "gray85", "grey89", "gray89", "grey93", "gray93"]

/-- The text between a start and a closing bracket at the end. -/
def inBrackets? (start : String) (word : List Char) : Option (List Char) :=
  let body := word.drop start.length
  if start.toList.isPrefixOf word && body.getLast? = some ')' then some body.dropLast else none

/-- The most digits that a number has. -/
def maxDigits : Nat := 4300

/-- The number of a text of digits, in any script. -/
def readNumber (digits : List Char) : Except StyleFault Nat :=
  if digits.isEmpty then .error (.number .missing)
  else if maxDigits < digits.length then .error (.number (.tooLong digits.length))
  else .ok (Nat.ofDigitChars 10 (Text.foldDigits digits) 0)

/-- Is the text a hash sign and six hexadecimal digits? -/
def isTriple (word : List Char) : Bool :=
  match word with
  | '#' :: digits =>
    digits.length = 6 && digits.all fun c => c.isDigit || ('a' ≤ c && c ≤ 'f')
  | _ => false

/-- Is the text a colour by its number: one to three digits in brackets, up to 255? -/
def isNumbered (word : List Char) : Bool :=
  match inBrackets? "color(" word with
  | some digits =>
    !digits.isEmpty && digits.length ≤ 3 && digits.all Char.isDigit
      && Nat.ofDigitChars 10 digits 0 ≤ 255
  | none => false

/-- The parts of a colour that is given by its mixture: digits with commas between them. -/
def mixture? (word : List Char) : Option (List (List Char)) :=
  match inBrackets? "rgb(" word with
  | some body =>
    if !body.isEmpty && body.all fun c => c = ',' || (Text.decimalValue? c).isSome then
      some (Text.splitAtChar ',' body)
    else none
  | none => none

/-- The colour of a word: a name, a hexadecimal triple, a number up to 255, or three of them. -/
def readColor (word : String) : Except StyleFault String := do
  let name := Text.trim (Text.lower word)
  let letters := name.toList
  if name = "default" || colorNames.contains name || isTriple letters || isNumbered letters then
    return name
  match mixture? letters with
  | some [red, green, blue] => do
    -- The numbers are read in turn before any of them is compared.
    let red ← readNumber red
    let green ← readNumber green
    let blue ← readNumber blue
    if red ≤ 255 && green ≤ 255 && blue ≤ 255 then return name else throw .unknown
  | _ => throw .unknown

/-- Switches an attribute. -/
def setAttribute (style : Style) (name : String) (value : Bool) : Style :=
  { style with attributes := (name, value) :: style.attributes.filter fun entry => entry.1 ≠ name }

/-- Reads the words of a style. -/
def readWords (style : Style) : List String → Except StyleFault Style
  | [] => .ok style
  | [word] => do
    let word := Text.lower word
    if word = "on" || word = "not" || word = "link" then throw .unknown
    match attribute? word with
    | some name => return style.setAttribute name true
    | none => return { style with color := some (← readColor word) }
  | first :: second :: rest => do
    let word := Text.lower first
    if word = "on" then readWords { style with background := some (← readColor second) } rest
    else if word = "not" then
      match attribute? second with
      | some name => readWords (style.setAttribute name false) rest
      | none => throw .unknown
    else if word = "link" then readWords { style with link := some second } rest
    else match attribute? word with
      | some name => readWords (style.setAttribute name true) (second :: rest)
      | none => readWords { style with color := some (← readColor word) } (second :: rest)

/-- Reads a style. -/
def read (text : String) : Except StyleFault Style :=
  if Text.trim text = "none" then .ok plain
  else readWords plain ((Text.words text.toList).map String.ofList)

/-- Writes an attribute if the style says something on it. -/
def writeAttribute (style : Style) (name : String) : Option String :=
  (style.attributes.find? fun entry => entry.1 = name).map fun entry =>
    if entry.2 then name else "not " ++ name

/-- The normal form of a style. -/
def write (style : Style) : String :=
  let parts := attributeNames.filterMap style.writeAttribute ++ style.color.toList
    ++ (style.background.map ("on " ++ ·)).toList ++ (style.link.map ("link " ++ ·)).toList
  if parts.isEmpty then "none" else String.intercalate " " parts

/-- The normal form of the name of a style. -/
def normalize (name : String) : Except NumberFault String :=
  match read name with
  | .ok style => .ok style.write
  | .error .unknown => .ok (Text.lower (Text.trim name))
  | .error (.number fault) => .error fault

/-- The fault of the numbers in a style, if it has one. -/
def numberFault? (name : String) : Option NumberFault :=
  match read name with
  | .error (.number fault) => some fault
  | _ => none

end Style

end RuleFixtures.Console
