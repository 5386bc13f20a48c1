import RuleFixtures.Address.Host
import RuleFixtures.Fault
import RuleFixtures.Text.Blank

/-!
The parts of an address as the user gives it.

Controls and blanks in front do not count, and tabs and line breaks are removed. The scheme is
what stands before the first colon if it starts with a letter and holds letters, digits and the
marks plus, minus and point. The authority follows two slashes, up to a slash, a question mark
or a hash sign; the path goes up to a question mark or a hash sign, and the query stands between
the two. Brackets in the authority must hold a numeric address.

* `AddressParts.read` splits an address, or fails at an authority that it cannot take.
-/

namespace RuleFixtures

/-- The parts of an address. -/
structure AddressParts where
  scheme : String
  authority : String
  path : String
  query : String
  deriving DecidableEq

namespace AddressParts

/-- Can the character stand in a scheme? -/
def isSchemeChar (c : Char) : Bool := c.isAlphanum || c = '+' || c = '-' || c = '.'

/-- Removes the characters that do not count. -/
def clean (s : List Char) : List Char :=
  (s.dropWhile fun c => c.toNat ≤ 0x20).filter fun c => c ≠ '\t' && c ≠ '\r' && c ≠ '\n'

/-- Splits off the scheme, in lower case; it is empty if there is none. -/
def splitScheme (s : List Char) : List Char × List Char :=
  let scheme := s.takeWhile (· ≠ ':')
  match s.drop scheme.length, scheme with
  | _ :: rest, first :: _ =>
    if first.isAlpha && scheme.all isSchemeChar then (scheme.map Char.toLower, rest) else ([], s)
  | _, _ => ([], s)

/-- Splits off the authority; it is empty if there is none. -/
def splitAuthority (s : List Char) : List Char × List Char :=
  match s with
  | '/' :: '/' :: rest =>
    let authority := rest.takeWhile fun c => c ≠ '/' && c ≠ '?' && c ≠ '#'
    (authority, rest.drop authority.length)
  | _ => ([], s)

/-- Splits what follows the authority into path and query. -/
def splitQuery (s : List Char) : List Char × List Char :=
  let s := s.takeWhile (· ≠ '#')
  (s.takeWhile (· ≠ '?'), (s.dropWhile (· ≠ '?')).drop 1)

/-- The text between the first opening bracket and the closing bracket behind it. -/
def inBrackets (s : List Char) : List Char :=
  ((s.dropWhile (· ≠ '[')).drop 1).takeWhile (· ≠ ']')

/-- Is the text an address of a later version: the letter, a number, a point and more? -/
def isLaterVersion (s : List Char) : Bool :=
  let number := (s.drop 1).takeWhile fun c => (Text.hexValue? c).isSome
  !number.isEmpty && match s.drop (1 + number.length) with
    | '.' :: more => !more.isEmpty && !more.contains '\n'
    | _ => false

/-- Characters that stand for one of the delimiters of an address, alone or with others. -/
def disguises : List Nat :=
  [0x2047, 0x2048, 0x2049, 0x2100, 0x2101, 0x2105, 0x2106, 0x2A74, 0xFE13, 0xFE16, 0xFE55, 0xFE56,
   0xFE5F, 0xFE6B, 0xFF03, 0xFF0F, 0xFF1A, 0xFF1F, 0xFF20]

/-- Fails at an authority that cannot be taken. -/
def checkAuthority (authority : List Char) : Except AddressFault Unit :=
  let opens := authority.contains '['
  let closes := authority.contains ']'
  let host := inBrackets authority
  if opens != closes then .error .brackets
  else if opens && host.head? = some 'v' && !isLaterVersion host then .error .laterVersion
  else if opens && host.head? != some 'v' && Address.isVersionFour host then .error .versionFour
  else if opens && host.head? != some 'v' && !Address.isVersionSix host then
    .error (.notAddress (Text.quoted (String.ofList host)))
  else if authority.any fun c => disguises.contains c.toNat then
    .error (.disguised (String.ofList authority))
  else .ok ()

/-- Splits an address. -/
def read (address : String) : Except AddressFault AddressParts := do
  let (scheme, rest) := splitScheme (clean address.toList)
  let (authority, rest) := splitAuthority rest
  checkAuthority authority
  let (path, query) := splitQuery rest
  return ⟨String.ofList scheme, String.ofList authority, String.ofList path, String.ofList query⟩

end AddressParts

end RuleFixtures
