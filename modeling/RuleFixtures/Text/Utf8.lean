/-!
Texts as bytes in UTF-8.

* `Utf8.encode` writes a text as bytes.
* `Utf8.scan` reads bytes as characters and broken sequences; a broken sequence ends in front of
  the byte that does not continue it. `Utf8.decode?` accepts bytes without broken sequences, and
  `Utf8.decodeLossy` writes the replacement character for each.
* `Utf8.decode` tells the first broken sequence of bytes that are no text.
-/

namespace RuleFixtures.Text.Utf8

/-- The bytes of a text. -/
def encode (s : List Char) : List UInt8 := s.flatMap String.utf8EncodeChar

/-- What a first byte says: how many bytes follow, the bits that it gives to the character, and
the range of the byte behind it. -/
structure Lead where
  count : Nat
  bits : Nat
  low : Nat
  high : Nat

/-- What a first byte says. -/
def lead? (byte : Nat) : Option Lead :=
  if byte < 0x80 then some ⟨0, byte, 0x80, 0xBF⟩
  else if byte < 0xC2 then none
  else if byte < 0xE0 then some ⟨1, byte - 0xC0, 0x80, 0xBF⟩
  else if byte = 0xE0 then some ⟨2, 0, 0xA0, 0xBF⟩
  else if byte = 0xED then some ⟨2, 0xD, 0x80, 0x9F⟩
  else if byte < 0xF0 then some ⟨2, byte - 0xE0, 0x80, 0xBF⟩
  else if byte = 0xF0 then some ⟨3, 0, 0x90, 0xBF⟩
  else if byte < 0xF4 then some ⟨3, byte - 0xF0, 0x80, 0xBF⟩
  else if byte = 0xF4 then some ⟨3, 4, 0x80, 0x8F⟩
  else none

/-- Reads the bytes behind a first byte as far as they continue it: the code point if all are
there, and what follows. -/
def continue? (bits low high : Nat) : (count : Nat) → List UInt8 → Option Nat × List UInt8
  | 0, rest => (some bits, rest)
  | _ + 1, [] => (none, [])
  | count + 1, byte :: rest =>
    if low ≤ byte.toNat && byte.toNat ≤ high then
      continue? (64 * bits + byte.toNat % 64) 0x80 0xBF count rest
    else (none, byte :: rest)

theorem length_continue?_le (bits low high count : Nat) (s : List UInt8) :
    (continue? bits low high count s).2.length ≤ s.length := by
  induction count generalizing bits low high s with
  | zero => simp [continue?]
  | succ n ih =>
    cases s with
    | nil => simp [continue?]
    | cons byte rest =>
      rw [continue?]
      split
      · exact Nat.le_succ_of_le (ih _ _ _ _)
      · exact Nat.le_refl _

/-- Reads bytes as characters; none stands for a broken sequence. -/
def scan : List UInt8 → List (Option Char)
  | [] => []
  | byte :: rest =>
    match lead? byte.toNat with
    | none => none :: scan rest
    | some l =>
      (continue? l.bits l.low l.high l.count rest).1.map Char.ofNat ::
        scan (continue? l.bits l.low l.high l.count rest).2
  termination_by s => s.length
  decreasing_by
    · simp
    · have := length_continue?_le l.bits l.low l.high l.count rest
      simp only [List.length_cons]
      omega

/-- Reads bytes without broken sequences. -/
def decode? (bytes : List UInt8) : Option (List Char) := (scan bytes).mapM id

/-- Reads bytes, with the replacement character for each broken sequence. -/
def decodeLossy (bytes : List UInt8) : List Char :=
  (scan bytes).map fun c? => c?.getD '\uFFFD'

/-- Why a sequence of bytes is broken. -/
inductive BreakReason where
  | start
  | continuation
  | finish
  deriving DecidableEq

/-- The text of a reason. -/
def BreakReason.text : BreakReason → String
  | .start => "invalid start byte"
  | .continuation => "invalid continuation byte"
  | .finish => "unexpected end of data"

/-- A broken sequence: its first byte, its length and the number of bytes in front of it. -/
structure Broken where
  first : UInt8
  length : Nat
  position : Nat
  reason : BreakReason
  deriving DecidableEq

/-- The first broken sequence of bytes, if there is one; `position` counts the bytes in front. -/
def broken? (position : Nat) : List UInt8 → Option Broken
  | [] => none
  | byte :: rest =>
    match lead? byte.toNat with
    | none => some ⟨byte, 1, position, .start⟩
    | some l =>
      let tail := (continue? l.bits l.low l.high l.count rest).2
      if (continue? l.bits l.low l.high l.count rest).1.isSome then
        broken? (position + 1 + l.count) (continue? l.bits l.low l.high l.count rest).2
      else some ⟨byte, 1 + (rest.length - tail.length), position,
        if tail.isEmpty then .finish else .continuation⟩
  termination_by s => s.length
  decreasing_by
    have := length_continue?_le l.bits l.low l.high l.count rest
    simp only [List.length_cons]
    omega

/-- Reads bytes, or tells the first broken sequence. -/
def decode (bytes : List UInt8) : Except Broken (List Char) :=
  match broken? 0 bytes with
  | none => .ok (decodeLossy bytes)
  | some fault => .error fault

end RuleFixtures.Text.Utf8
