import RuleFixtures.Address.Host
import RuleFixtures.Fault
import RuleFixtures.Number.DecimalReader
import RuleFixtures.Text.Base64
import RuleFixtures.Text.LetterCase
import RuleFixtures.Text.Percent

/-!
The address of a request, in the form in which it is sent.

The scheme and the host are in lower case, the usual port of the scheme is left out, points in
the path are resolved and characters that cannot stand in an address are escaped. A host outside
ASCII is sent as the platform encodes it.

* `WebAddress.read` reads an address, or tells the part that cannot be taken.
* `WebAddress.resolve` is the address of a request; without a host only the path counts.
* `WebAddress.withParameters` puts parameters in the place of the query. An address that is put
  together of parts has none that is too long.
* `WebAddress.text` writes an address without its query, and `WebAddress.target` what is asked of
  the host.
* `WebAddress.basicCredentials?` are the credentials that an address carries.
-/

namespace RuleFixtures

/-- An address by its parts. -/
structure WebAddress where
  scheme : String
  userInfo : String
  host : String
  port : Option Int
  path : String
  query : Option String
  fragment : Option String
  deriving DecidableEq

namespace WebAddress

variable [Platform]

/-! ### What needs no escape -/

/-- The marks that are safe in a fragment. -/
def safeInFragment (c : Char) : Bool :=
  0x20 < c.toNat && c.toNat < 0x7F && !(['"', '<', '>', '\x60'].contains c)

/-- The marks that are safe in a query. -/
def safeInQuery (c : Char) : Bool :=
  0x20 < c.toNat && c.toNat < 0x7F && !(['"', '#', '<', '>'].contains c)

/-- The marks that are safe in a path. -/
def safeInPath (c : Char) : Bool := safeInQuery c && !(['?', '\x60', '\x7b', '\x7d'].contains c)

/-- The marks that are safe in user information. -/
def safeInUserInfo (c : Char) : Bool :=
  safeInPath c && !(['/', ';', '=', '@', '[', '\\', ']', '^', '|'].contains c)

/-- The marks that are safe in a host. -/
def safeInHost (c : Char) : Bool :=
  "!$&'()*+,;=\"\x60\x7b\x7d%|\\".toList.contains c

/-- Escapes the characters outside a class. -/
def quoted (safe : Char → Bool) (s : List Char) : String :=
  String.ofList (Text.Percent.quoteWith safe s)

/-! ### Splitting -/

/-- An address cut at its delimiters. -/
structure Pieces where
  scheme : List Char
  authority : List Char
  path : List Char
  query : Option (List Char)
  fragment : Option (List Char)

/-- Splits off the scheme; it is empty if there is none. -/
def splitScheme (s : List Char) : List Char × List Char :=
  let scheme := s.takeWhile (· ≠ ':')
  match s.drop scheme.length, scheme with
  | _ :: rest, [] => ([], rest)
  | _ :: rest, first :: _ =>
    if first.isAlpha && scheme.all fun c => c.isAlphanum || c = '+' || c = '.' || c = '-' then
      (scheme, rest)
    else ([], s)
  | [], _ => ([], s)

/-- Splits off the authority behind two slashes; it is empty if there is none. -/
def splitAuthority (s : List Char) : List Char × List Char :=
  match s with
  | '/' :: '/' :: rest =>
    let authority := rest.takeWhile fun c => c ≠ '/' && c ≠ '?' && c ≠ '#'
    (authority, rest.drop authority.length)
  | _ => ([], s)

/-- Cuts an address at its delimiters. -/
def split (s : List Char) : Pieces :=
  let (scheme, rest) := splitScheme s
  let (authority, rest) := splitAuthority rest
  let path := rest.takeWhile fun c => c ≠ '?' && c ≠ '#'
  let (query, rest) := match rest.drop path.length with
    | '?' :: tail => (some (tail.takeWhile (· ≠ '#')), tail.dropWhile (· ≠ '#'))
    | tail => (none, tail)
  ⟨scheme, authority, path, query, match rest with
    | '#' :: tail => some tail
    | _ => none⟩

/-- Cuts at the last occurrence of a character: what stands before it if it occurs, and the
rest. -/
def splitLast (mark : Char) (s : List Char) : Option (List Char) × List Char :=
  let after := (s.reverse.takeWhile (· ≠ mark)).reverse
  if after.length = s.length then (none, s)
  else (some (s.take (s.length - after.length - 1)), after)

/-- Cuts an authority into user information, host and port; a host in brackets keeps them. -/
def splitHost (authority : List Char) : List Char × List Char × Option (List Char) :=
  let (userInfo, rest) := splitLast '@' authority
  let host := match rest, splitLast ']' rest with
    | '[' :: _, (some inner, _) => inner ++ [']']
    | _, _ => rest.takeWhile fun c => c ≠ ':' && c ≠ '@'
  let port := match rest.drop host.length with
    | ':' :: digits => digits
    | digits => digits
  (userInfo.getD [], host, if port.isEmpty then none else some port)

/-! ### Checking and normalising -/

/-- The host in the form in which it is sent, without brackets. -/
def normalizeHost (host : List Char) : Except AddressPart String :=
  let shown := Text.quoted (String.ofList host)
  let inner := (host.drop 1).dropLast
  if Address.looksVersionFour host then
    if Address.isVersionFour host then .ok (String.ofList host) else .error (.hostVersionFour shown)
  else if host.head? = some '[' && host.getLast? = some ']' && 2 ≤ host.length then
    if Address.isVersionSix inner then .ok (String.ofList inner) else .error (.hostVersionSix shown)
  else if host.all fun c => c.toNat < 0x80 then .ok (quoted safeInHost (host.map Char.toLower))
  else match Platform.encodeHost? (Text.lower (String.ofList host)) with
    | some encoded => .ok encoded
    | none => .error (.hostName shown)

/-- The usual ports of schemes. -/
def usualPorts : List (String × Int) :=
  [("ftp", 21), ("http", 80), ("https", 443), ("ws", 80), ("wss", 443)]

/-- The port, unless it is the usual one of the scheme. -/
def normalizePort (scheme : String) (port : Option (List Char)) : Except AddressPart (Option Int) :=
  match port with
  | none => .ok none
  | some digits => match DecimalReader.readInteger? (String.ofList digits) with
    | none => .error (.port (Text.quoted (String.ofList digits)))
    | some number => .ok (if usualPorts.contains (scheme, number) then none else some number)

/-- Resolves a segment of a path against those before it. -/
def addSegment (done : List (List Char)) (segment : List Char) : List (List Char) :=
  if segment = ['.'] then done
  else if segment = ['.', '.'] then if done = [] || done = [[]] then done else done.dropLast
  else done ++ [segment]

/-- Resolves segments of one or two points in a path. -/
def resolvePoints (path : List Char) : List Char :=
  let segments := Text.splitAtChar '/' path
  if segments.contains ['.'] || segments.contains ['.', '.'] then
    Text.joinWithChar '/' (segments.foldl addSegment [])
  else path

/-- The first control character of an address, with its position. -/
def control? (s : List Char) : Option (Char × Nat) :=
  let isControl (c : Char) : Bool := c.toNat < 0x20 || c.toNat = 0x7F
  (s.find? isControl).map fun c => (c, (s.takeWhile fun x => !isControl x).length)

/-- The most characters that an address and its parts have. -/
def maxLength : Nat := 65536

/-- Reads an address. -/
def read (address : String) : Except AddressPart WebAddress := do
  let s := address.toList
  if maxLength < s.length then throw .tooLong
  if let some (c, position) := control? s then throw (.control (Text.quoted c.toString) position)
  let pieces := split s
  let scheme := String.ofList pieces.scheme
  let (userInfo, host, port) := splitHost pieces.authority
  let userInfo := quoted safeInUserInfo userInfo
  let host ← normalizeHost host
  let port ← normalizePort scheme port
  let placed := userInfo ≠ "" || host ≠ "" || port.isSome
  if placed && !pieces.path.isEmpty && pieces.path.head? != some '/' then throw .relativePath
  let path := if scheme ≠ "" || placed then resolvePoints pieces.path else pieces.path
  return ⟨scheme.toLower, userInfo, host, port, quoted safeInPath path,
    pieces.query.map (quoted safeInQuery), pieces.fragment.map (quoted safeInFragment)⟩

/-! ### Requests -/

/-- Has the address a scheme and a host? -/
def isAbsolute (address : WebAddress) : Bool := address.scheme ≠ "" && address.host ≠ ""

/-- The part between the slashes and the path. -/
def authority (address : WebAddress) : String :=
  (if address.userInfo = "" then "" else address.userInfo ++ "@")
    ++ (if address.host.toList.contains ':' then "[" ++ address.host ++ "]" else address.host)
    ++ (match address.port with
        | some number => ":" ++ toString number
        | none => "")

/-- The parts of an address with their names, in the order in which they are checked. -/
def parts (address : WebAddress) : List (String × String) :=
  [("scheme", address.scheme), ("authority", address.authority), ("path", address.path),
   ("query", address.query.getD ""), ("fragment", address.fragment.getD "")]

/-- An address whose parts are not too long; else the first part that is. -/
def checkParts (address : WebAddress) : Except AddressPart WebAddress :=
  match address.parts.find? fun part => maxLength < part.2.length with
  | some part => .error (.longComponent part.1)
  | none => .ok address

/-- The address of a request. Of an address without a host only the path and the query count. -/
def resolve (address : WebAddress) : Except AddressPart WebAddress :=
  if address.isAbsolute then .ok address
  else
    let path := '/' :: address.path.toList.dropWhile (· = '/')
    checkParts ⟨"", "", "", none, quoted safeInPath path, address.query, none⟩

/-- Puts parameters in the place of the query; the usual port is left out. -/
def withParameters (address : WebAddress) (parameters : List (String × String)) :
    Except AddressPart WebAddress := do
  let query := String.ofList (Text.Percent.formText parameters)
  let address ← checkParts { address with query := some query }
  return { address with
    port := address.port.filter fun number => !usualPorts.contains (address.scheme, number) }

/-- The pairs that the query holds. -/
def parameters (address : WebAddress) : List (String × String) :=
  Text.Percent.formPairs ((address.query.getD "").toList)

/-- What is asked of the host: the path, with the query if there is one. -/
def target (address : WebAddress) : String :=
  (if address.path = "" then "/" else address.path)
    ++ (match address.query with
        | some query => "?" ++ query
        | none => "")

/-- An address without its query. -/
def text (address : WebAddress) : String :=
  (if address.scheme = "" then "" else address.scheme ++ ":")
    ++ (if address.authority = "" then "" else "//" ++ address.authority) ++ address.path
    ++ (match address.fragment with
        | some fragment => "#" ++ fragment
        | none => "")

/-- The credentials of an address with user information: name and password in base 64. -/
def basicCredentials? (address : WebAddress) : Option String :=
  let info := address.userInfo.toList
  let name := Text.Percent.unquote (info.takeWhile (· ≠ ':'))
  let password := Text.Percent.unquote ((info.dropWhile (· ≠ ':')).drop 1)
  if name.isEmpty && password.isEmpty then none
  else some (String.ofList (Text.Base64.encode (Text.Utf8.encode (name ++ ':' :: password))))

end WebAddress

end RuleFixtures
