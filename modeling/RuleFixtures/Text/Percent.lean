import RuleFixtures.Text.Hex
import RuleFixtures.Text.Split
import RuleFixtures.Text.Utf8

/-!
Percent encoding: a byte as a percent sign and two hexadecimal digits.

* `Percent.quoteWith` escapes the characters outside a class and leaves escapes that are there.
* `Percent.unquote` reads escapes as bytes of UTF-8; `Percent.unquoteForm` reads a plus sign as a
  blank before.
* `Percent.formPairs` reads the pairs of a query, and `Percent.formText` writes them.
-/

namespace RuleFixtures.Text.Percent

/-! ### Writing -/

/-- A byte as an escape. -/
def escapeByte (byte : UInt8) : List Char := '%' :: upperHexDigits 2 byte.toNat

/-- A character as the escapes of its bytes. -/
def escapeChar (c : Char) : List Char := (String.utf8EncodeChar c).flatMap escapeByte

/-- Letters, digits and the marks that need no escape anywhere. -/
def isUnreserved (c : Char) : Bool :=
  c.isAlphanum || c = '-' || c = '.' || c = '_' || c = '~'

/-- Escapes the characters that are neither unreserved nor in a class. Escapes in the text
stay. -/
def quoteWith (safe : Char → Bool) : List Char → List Char
  | [] => []
  | '%' :: a :: b :: rest =>
    if (hexValue? a).isSome && (hexValue? b).isSome then '%' :: a :: b :: quoteWith safe rest
    else
      (if safe '%' then ['%'] else escapeChar '%') ++ quoteWith safe (a :: b :: rest)
  | c :: rest =>
    (if isUnreserved c || safe c then [c] else escapeChar c) ++ quoteWith safe rest

/-! ### Reading -/

/-- The bytes of a text with escapes. -/
def bytes : List Char → List UInt8
  | [] => []
  | '%' :: a :: b :: rest =>
    match hexValue? a, hexValue? b with
    | some high, some low => UInt8.ofNat (16 * high + low) :: bytes rest
    | _, _ => 0x25 :: bytes (a :: b :: rest)
  | c :: rest => String.utf8EncodeChar c ++ bytes rest

/-- Reads the escapes of a text. -/
def unquote (s : List Char) : List Char := Utf8.decodeLossy (bytes s)

/-- Reads the escapes of a text in which a plus sign stands for a blank. -/
def unquoteForm (s : List Char) : List Char :=
  unquote (s.map fun c => if c = '+' then ' ' else c)

/-! ### Forms -/

/-- Splits at the first equals sign; without one all is the name. -/
def splitPair (pair : List Char) : List Char × List Char :=
  (pair.takeWhile (· ≠ '='), (pair.dropWhile (· ≠ '=')).drop 1)

/-- The pairs of a query, in order; empty pieces are no pairs. -/
def formPairs (query : List Char) : List (String × String) :=
  ((splitAtChar '&' query).filter fun piece => !piece.isEmpty).map fun piece =>
    (String.ofList (unquoteForm (splitPair piece).1),
      String.ofList (unquoteForm (splitPair piece).2))

/-- A name or value in a query. -/
def formPart (s : String) : List Char :=
  s.toList.flatMap fun c =>
    if c = ' ' then ['+'] else if isUnreserved c then [c] else escapeChar c

/-- A query that holds the pairs. -/
def formText (pairs : List (String × String)) : List Char :=
  joinWithChar '&' (pairs.map fun (name, value) => formPart name ++ '=' :: formPart value)

end RuleFixtures.Text.Percent
