import RuleFixtures.Json.Reader
import RuleFixtures.Text.Utf8

/-!
Reading JSON from bytes.

The encoding shows in the first bytes: a byte order mark names it, and else zero bytes among the
first four tell units of sixteen or thirty-two bits, since a document starts with characters of
ASCII.

* `Encoding.detect` finds the encoding and `Encoding.decode?` reads by it.
* `Json.readBytes` reads a document that fills its bytes, if there is room for its lists and
  objects.
-/

namespace RuleFixtures

/-- The encodings of a document. -/
inductive Encoding where
  | utf8
  | utf16 (bigEndian : Bool)
  | utf32 (bigEndian : Bool)
  deriving DecidableEq

namespace Encoding

/-- The encoding that a byte order mark names, with the number of its bytes. -/
def ofMark? : List UInt8 → Option (Encoding × Nat)
  | 0 :: 0 :: 0xFE :: 0xFF :: _ => some (.utf32 true, 4)
  | 0xFF :: 0xFE :: 0 :: 0 :: _ => some (.utf32 false, 4)
  | 0xFE :: 0xFF :: _ => some (.utf16 true, 2)
  | 0xFF :: 0xFE :: _ => some (.utf16 false, 2)
  | 0xEF :: 0xBB :: 0xBF :: _ => some (.utf8, 3)
  | _ => none

/-- The encoding that the zeros among the first bytes tell. -/
def ofZeros : List UInt8 → Encoding
  | a :: b :: c :: d :: _ =>
    if a = 0 then if b = 0 then .utf32 true else .utf16 true
    else if b = 0 then if c = 0 && d = 0 then .utf32 false else .utf16 false
    else .utf8
  | [a, b] => if a = 0 then .utf16 true else if b = 0 then .utf16 false else .utf8
  | _ => .utf8

/-- The encoding of a document, with the number of bytes in front of its text. -/
def detect (bytes : List UInt8) : Encoding × Nat := (ofMark? bytes).getD (ofZeros bytes, 0)

/-- The units of sixteen bits of bytes; a single byte is left over. -/
def units16? (bigEndian : Bool) : List UInt8 → Option (List Nat)
  | [] => some []
  | [_] => none
  | a :: b :: rest =>
    let unit := if bigEndian then 256 * a.toNat + b.toNat else 256 * b.toNat + a.toNat
    (units16? bigEndian rest).map (unit :: ·)

/-- The characters of units of sixteen bits; a half of a surrogate pair without its partner reads
as the replacement character. -/
def charsOfUnits16 : List Nat → List Char
  | [] => []
  | [unit] => [Json.charOfUnits unit none]
  | high :: low :: rest =>
    if 0xD800 ≤ high && high ≤ 0xDBFF && 0xDC00 ≤ low && low ≤ 0xDFFF then
      Json.charOfUnits high (some low) :: charsOfUnits16 rest
    else Json.charOfUnits high none :: charsOfUnits16 (low :: rest)

/-- The characters of units of thirty-two bits. -/
def decode32? (bigEndian : Bool) : List UInt8 → Option (List Char)
  | [] => some []
  | a :: b :: c :: d :: rest =>
    let (p, q, r, s) := if bigEndian then (a, b, c, d) else (d, c, b, a)
    let code := 16777216 * p.toNat + 65536 * q.toNat + 256 * r.toNat + s.toNat
    if 0x10FFFF < code then none
    else (decode32? bigEndian rest).map (Json.charOfUnits code none :: ·)
  | _ => none

/-- The characters of bytes in an encoding. -/
def decode? (encoding : Encoding) (bytes : List UInt8) : Option (List Char) :=
  match encoding with
  | .utf8 => Text.Utf8.decode? bytes
  | .utf16 bigEndian => (units16? bigEndian bytes).map charsOfUnits16
  | .utf32 bigEndian => decode32? bigEndian bytes

end Encoding

/-- Reads a document that fills its bytes, blanks apart. Bytes that are no text in their encoding
are malformed before anything is read of them. -/
def Json.readBytes (room : Nat) (bytes : List UInt8) : Except Json.ReadFault Json := do
  let (encoding, skipped) := Encoding.detect bytes
  let text ← Json.orMalformed (encoding.decode? (bytes.drop skipped))
  Json.readList room text

end RuleFixtures
