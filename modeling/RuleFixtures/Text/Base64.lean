/-!
Bytes in base 64: three bytes as four characters, the last group padded with equals signs.

* `Base64.encode` writes bytes and `Base64.decode?` reads them.
-/

namespace RuleFixtures.Text.Base64

/-- The digits in the order of their values. -/
def alphabet : List Char :=
  "ABCDEFGHIJKLMNOPQRSTUVWXYZabcdefghijklmnopqrstuvwxyz0123456789+/".toList

/-- The digit of a value below 64. -/
def digit (value : Nat) : Char := alphabet.getD value '='

/-- Writes bytes. -/
def encode : List UInt8 → List Char
  | [] => []
  | [a] => [digit (a.toNat / 4), digit (a.toNat % 4 * 16), '=', '=']
  | [a, b] =>
    [digit (a.toNat / 4), digit (a.toNat % 4 * 16 + b.toNat / 16), digit (b.toNat % 16 * 4), '=']
  | a :: b :: c :: rest =>
    digit (a.toNat / 4) :: digit (a.toNat % 4 * 16 + b.toNat / 16) ::
      digit (b.toNat % 16 * 4 + c.toNat / 64) :: digit (c.toNat % 64) :: encode rest

/-- The value of a digit. -/
def value? (c : Char) : Option Nat := alphabet.findIdx? (· = c)

/-- Reads bytes from groups of four digits. -/
def decode? : List Char → Option (List UInt8)
  | [] => some []
  | [a, b, '=', '='] => do
    let n := 4096 * (← value? a) + 64 * (← value? b)
    return [UInt8.ofNat (n / 1024)]
  | [a, b, c, '='] => do
    let n := 4096 * (← value? a) + 64 * (← value? b) + (← value? c)
    return [UInt8.ofNat (n / 1024), UInt8.ofNat (n / 4)]
  | a :: b :: c :: d :: rest => do
    let n := 262144 * (← value? a) + 4096 * (← value? b) + 64 * (← value? c) + (← value? d)
    return UInt8.ofNat (n / 65536) :: UInt8.ofNat (n / 256) :: UInt8.ofNat n :: (← decode? rest)
  | _ => none

end RuleFixtures.Text.Base64
