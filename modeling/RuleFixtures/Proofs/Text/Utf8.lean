import Mathlib.Tactic
import RuleFixtures.Text.Utf8

/-!
Texts in UTF-8 are read back.

* `Utf8.scan_encodeChar`: the bytes of a character are read as the character. The narrower ranges
  behind some first bytes leave out what is written in fewer bytes, and the surrogates.
* `Utf8.decode?_encode` and `Utf8.decodeLossy_encode`: so are those of a text.
* `Utf8.broken?_eq_none_iff`: a broken sequence is told if there is one. So `Utf8.decode_encode`:
  none is told of the bytes of a text.
-/

namespace RuleFixtures.Text.Utf8

/-- A byte in its range continues a character. -/
lemma continue?_cons {bits low high n : ℕ} (hn : n < 256) (hlow : low ≤ n) (hhigh : n ≤ high)
    (count : ℕ) (rest : List UInt8) :
    continue? bits low high (count + 1) (UInt8.ofNat n :: rest) =
      continue? (64 * bits + n % 64) 0x80 0xBF count rest := by
  have hbyte : (UInt8.ofNat n).toNat = n := UInt8.toNat_ofNat_of_lt' hn
  rw [continue?, hbyte, if_pos (by simp [hlow, hhigh])]

/-- A first byte and the bytes that continue it are read as a character. -/
lemma scan_of_lead {n bits : ℕ} {l : Lead} {rest tail : List UInt8} (hn : n < 256)
    (hlead : lead? n = some l)
    (hcontinue : continue? l.bits l.low l.high l.count rest = (some bits, tail)) :
    scan (UInt8.ofNat n :: rest) = some (Char.ofNat bits) :: scan tail := by
  have hbyte : (UInt8.ofNat n).toNat = n := UInt8.toNat_ofNat_of_lt' hn
  rw [scan, hbyte, hlead]
  simp only [hcontinue, Option.map_some]

/-- What a first byte says of a character in two bytes. -/
lemma lead?_two {n : ℕ} (hleast : 0x80 ≤ n) (hmost : n ≤ 0x7FF) :
    lead? (n / 64 + 0xC0) = some ⟨1, n / 64, 0x80, 0xBF⟩ := by
  rw [lead?, if_neg (by omega), if_neg (by omega), if_pos (by omega), Nat.add_sub_cancel]

/-- What a first byte says of a character in three bytes: the next byte is in the range that is
given. -/
lemma exists_lead?_three {n : ℕ} (hleast : 0x800 ≤ n) (hmost : n ≤ 0xFFFF)
    (hvalid : n < 0xD800 ∨ 0xDFFF < n) :
    ∃ low high, lead? (n / 4096 + 0xE0) = some ⟨2, n / 4096, low, high⟩ ∧
      low ≤ n / 64 % 64 + 0x80 ∧ n / 64 % 64 + 0x80 ≤ high := by
  rw [lead?, if_neg (by omega), if_neg (by omega), if_neg (by omega)]
  by_cases hfirst : n / 4096 = 0
  · rw [hfirst, if_pos rfl]
    exact ⟨_, _, rfl, by omega, by omega⟩
  · rw [if_neg (by omega)]
    by_cases hsurrogates : n / 4096 = 0xD
    · rw [hsurrogates, if_pos rfl]
      exact ⟨_, _, rfl, by omega, by omega⟩
    · rw [if_neg (by omega), if_pos (by omega), Nat.add_sub_cancel]
      exact ⟨_, _, rfl, by omega, by omega⟩

/-- What a first byte says of a character in four bytes. -/
lemma exists_lead?_four {n : ℕ} (hleast : 0x10000 ≤ n) (hmost : n < 0x110000) :
    ∃ low high, lead? (n / 262144 + 0xF0) = some ⟨3, n / 262144, low, high⟩ ∧
      low ≤ n / 4096 % 64 + 0x80 ∧ n / 4096 % 64 + 0x80 ≤ high := by
  rw [lead?, if_neg (by omega), if_neg (by omega), if_neg (by omega), if_neg (by omega),
    if_neg (by omega), if_neg (by omega)]
  by_cases hfirst : n / 262144 = 0
  · rw [hfirst, if_pos rfl]
    exact ⟨_, _, rfl, by omega, by omega⟩
  · rw [if_neg (by omega)]
    by_cases hlast : n / 262144 = 4
    · rw [hlast, if_neg (by omega), if_pos rfl]
      exact ⟨_, _, rfl, by omega, by omega⟩
    · rw [if_pos (by omega), Nat.add_sub_cancel]
      exact ⟨_, _, rfl, by omega, by omega⟩

/-- The bytes of a character are read as the character. -/
theorem scan_encodeChar (c : Char) (rest : List UInt8) :
    scan (String.utf8EncodeChar c ++ rest) = some c :: scan rest := by
  have hvalid : c.val.toNat < 0xD800 ∨ 0xDFFF < c.val.toNat ∧ c.val.toNat < 0x110000 := c.valid
  have hchar : Char.ofNat c.val.toNat = c := Char.ofNat_toNat c
  rw [String.utf8EncodeChar]
  generalize c.val.toNat = n at hvalid hchar
  subst hchar
  -- one case for each number of bytes: the lead tells how many follow, and the bits are put
  -- together
  split_ifs with hone htwo hthree <;> simp only [List.cons_append, List.nil_append]
  · refine scan_of_lead (l := ⟨0, n, 0x80, 0xBF⟩) (by omega) ?_ rfl
    rw [lead?, if_pos (by omega)]
  · have hbits : n / 64 % 0x20 = n / 64 := by omega
    rw [hbits]
    refine scan_of_lead (by omega) (lead?_two (by omega) (by omega)) ?_
    have hvalue : 64 * (n / 64) + (n % 64 + 0x80) % 64 = n := by omega
    dsimp only
    rw [continue?_cons (by omega) (by omega) (by omega), continue?, hvalue]
  · have hbits : n / 4096 % 0x10 = n / 4096 := by omega
    obtain ⟨low, high, hlead, hlow, hhigh⟩ :=
      exists_lead?_three (n := n) (by omega) (by omega) (by omega)
    rw [hbits]
    refine scan_of_lead (by omega) hlead ?_
    have hvalue :
        64 * (64 * (n / 4096) + (n / 64 % 64 + 0x80) % 64) + (n % 64 + 0x80) % 64 = n := by omega
    dsimp only
    rw [continue?_cons (by omega) hlow hhigh, continue?_cons (by omega) (by omega) (by omega),
      continue?, hvalue]
  · have hbits : n / 262144 % 0x08 = n / 262144 := by omega
    obtain ⟨low, high, hlead, hlow, hhigh⟩ := exists_lead?_four (n := n) (by omega) (by omega)
    rw [hbits]
    refine scan_of_lead (by omega) hlead ?_
    have hvalue : 64 * (64 * (64 * (n / 262144) + (n / 4096 % 64 + 0x80) % 64) +
        (n / 64 % 64 + 0x80) % 64) + (n % 64 + 0x80) % 64 = n := by omega
    dsimp only
    rw [continue?_cons (by omega) hlow hhigh, continue?_cons (by omega) (by omega) (by omega),
      continue?_cons (by omega) (by omega) (by omega), continue?, hvalue]

/-- The bytes of a text have no broken sequences. -/
theorem scan_encode (s : List Char) : scan (encode s) = s.map some := by
  induction s with
  | nil => simp [encode, scan]
  | cons c s ih =>
    have hencode : encode (c :: s) = String.utf8EncodeChar c ++ encode s := List.flatMap_cons
    rw [hencode, scan_encodeChar, ih, List.map_cons]

/-- They are read as the text. -/
theorem decode?_encode (s : List Char) : decode? (encode s) = some s := by
  rw [decode?, scan_encode]
  induction s with
  | nil => rfl
  | cons c s ih => simp [List.mapM_cons, ih]

theorem decodeLossy_encode (s : List Char) : decodeLossy (encode s) = s := by
  rw [decodeLossy, scan_encode, List.map_map]
  exact List.map_id' s

/-! ### Broken sequences -/

/-- A broken sequence is told just if there is one, wherever the bytes stand. -/
theorem broken?_eq_none_iff (position : ℕ) (bytes : List UInt8) :
    broken? position bytes = none ↔ none ∉ scan bytes := by
  fun_induction scan bytes generalizing position with
  | case1 => simp [broken?]
  | case2 byte rest hlead ih => simp [broken?, hlead]
  | case3 byte rest l hlead ih =>
    rw [broken?, hlead]
    dsimp only
    cases hcode : (continue? l.bits l.low l.high l.count rest).1 with
    | none => simp
    | some code =>
      rw [Option.isSome_some, if_pos rfl, ih]
      simp

/-- No broken sequence is told of the bytes of a text. -/
theorem decode_encode (s : List Char) : decode (encode s) = .ok s := by
  have hwhole : broken? 0 (encode s) = none := by
    rw [broken?_eq_none_iff, scan_encode]
    simp
  rw [decode, hwhole]
  exact congrArg Except.ok (decodeLossy_encode s)

end RuleFixtures.Text.Utf8
