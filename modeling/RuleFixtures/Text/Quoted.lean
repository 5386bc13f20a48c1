import RuleFixtures.Text.Hex
import RuleFixtures.Text.Printable

/-!
Texts in quotes, as messages show them.

Single quotes are used unless the text holds one and no double quote. Backslashes, the quote in
use and characters that cannot be shown are escaped.

* `quoted` is the quoted form of a text.
-/

namespace RuleFixtures.Text

/-- One character of a quoted text. -/
def quotedChar (quote c : Char) : List Char :=
  if c = quote || c = '\\' then ['\\', c]
  else if c = '\n' then ['\\', 'n']
  else if c = '\r' then ['\\', 'r']
  else if c = '\t' then ['\\', 't']
  else if isPrintable c then [c]
  else if c.toNat < 0x100 then '\\' :: 'x' :: hexDigits 2 c.toNat
  else if c.toNat < 0x10000 then '\\' :: 'u' :: hexDigits 4 c.toNat
  else '\\' :: 'U' :: hexDigits 8 c.toNat

/-- The quote around a text: the single one, unless only double quotes avoid an escape. -/
def quoteFor (s : List Char) : Char :=
  if s.contains '\'' && !s.contains '"' then '"' else '\''

/-- The text in quotes. -/
def quoted (text : String) : String :=
  let quote := quoteFor text.toList
  String.ofList (quote :: text.toList.flatMap (quotedChar quote) ++ [quote])

end RuleFixtures.Text
