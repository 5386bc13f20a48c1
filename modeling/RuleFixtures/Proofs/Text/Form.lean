import RuleFixtures.Proofs.Text.Hex
import RuleFixtures.Proofs.Text.Split
import RuleFixtures.Proofs.Text.Utf8
import RuleFixtures.Text.Percent

/-!
The pairs of a query are read back.

* `Percent.unquoteForm_formPart`: a name or value is read back, whatever characters it holds.
* `Percent.isFormChar_of_mem_formText`: the characters of a query; none of them ends it or starts
  another part of an address.
* `Percent.formPairs_formText`: pairs are read back from the query that holds them.
* `Percent.length_formText_le` bounds the length of a query by those of its names and values.
-/

namespace RuleFixtures.Text.Percent

/-! ### Escapes -/

lemma bytes_of_ne {c : Char} (h : c ≠ '%') (rest : List Char) :
    bytes (c :: rest) = String.utf8EncodeChar c ++ bytes rest := by
  rw [bytes.eq_def]
  split
  · next heq => cases heq
  · next heq => exact absurd (List.cons.inj heq).1 h
  · next heq =>
    cases heq
    rfl

lemma escapeByte_eq (byte : UInt8) : escapeByte byte =
    ['%', (hexDigit (byte.toNat / 16 % 16)).toUpper, (hexDigit (byte.toNat % 16)).toUpper] := rfl

/-- An escape is read as its byte. -/
lemma bytes_escapeByte (byte : UInt8) (rest : List Char) :
    bytes (escapeByte byte ++ rest) = byte :: bytes rest := by
  have hhigh := hexValue?_toUpper_hexDigit (byte.toNat / 16 % 16) (Nat.mod_lt _ (by norm_num))
  have hlow := hexValue?_toUpper_hexDigit (byte.toNat % 16) (Nat.mod_lt _ (by norm_num))
  have hvalue : 16 * (byte.toNat / 16 % 16) + byte.toNat % 16 = byte.toNat := by
    have := byte.toNat_lt
    omega
  rw [escapeByte_eq]
  simp only [List.cons_append, List.nil_append, bytes, hhigh, hlow, hvalue, UInt8.ofNat_toNat]

lemma bytes_flatMap_escapeByte (content : List UInt8) (rest : List Char) :
    bytes (content.flatMap escapeByte ++ rest) = content ++ bytes rest := by
  induction content with
  | nil => rfl
  | cons byte content ih =>
    rw [List.flatMap_cons, List.append_assoc, bytes_escapeByte, ih, List.cons_append]

/-! ### Names and values -/

/-- The characters of a name or value in a query. -/
def isPartChar (c : Char) : Bool := isUnreserved c || c = '%' || c = '+'

lemma isPartChar_of_mem_escapeByte {byte : UInt8} {c : Char} (hc : c ∈ escapeByte byte) :
    isPartChar c = true ∧ c ≠ '+' := by
  have hdigit : ∀ value < 16, isPartChar (hexDigit value).toUpper = true ∧
      (hexDigit value).toUpper ≠ '+' := by
    decide
  rw [escapeByte_eq, List.mem_cons, List.mem_cons, List.mem_singleton] at hc
  obtain rfl | rfl | rfl := hc
  · decide
  · exact hdigit _ (Nat.mod_lt _ (by norm_num))
  · exact hdigit _ (Nat.mod_lt _ (by norm_num))

lemma isPartChar_of_mem_escapeChar {c other : Char} (h : other ∈ escapeChar c) :
    isPartChar other = true ∧ other ≠ '+' := by
  obtain ⟨byte, -, hbyte⟩ := List.mem_flatMap.1 h
  exact isPartChar_of_mem_escapeByte hbyte

/-- One character of a name or value. -/
def formChar (c : Char) : List Char :=
  if c = ' ' then ['+'] else if isUnreserved c then [c] else escapeChar c

lemma formPart_eq (s : String) : formPart s = s.toList.flatMap formChar := rfl

lemma isPartChar_of_mem_formPart {s : String} {c : Char} (hc : c ∈ formPart s) :
    isPartChar c = true := by
  rw [formPart_eq] at hc
  obtain ⟨written, -, hwritten⟩ := List.mem_flatMap.1 hc
  rw [formChar] at hwritten
  split_ifs at hwritten with hblank hplain
  · obtain rfl := List.mem_singleton.1 hwritten
    decide
  · obtain rfl := List.mem_singleton.1 hwritten
    simp [isPartChar, hplain]
  · exact (isPartChar_of_mem_escapeChar hwritten).1

/-- The bytes of a character are read from how it is written. -/
lemma bytes_formChar (c : Char) (rest : List Char) :
    bytes ((formChar c).map (fun c => if c = '+' then ' ' else c) ++ rest) =
      String.utf8EncodeChar c ++ bytes rest := by
  rw [formChar]
  split_ifs with hblank hplain
  · rw [hblank]
    exact bytes_of_ne (by decide) rest
  · have hne (other : Char) (hother : isUnreserved other = false) : c ≠ other := by
      rintro rfl
      rw [hplain] at hother
      cases hother
    rw [List.map_singleton, if_neg (hne '+' (by decide)), List.singleton_append]
    exact bytes_of_ne (hne '%' (by decide)) rest
  · have hkept : (escapeChar c).map (fun c => if c = '+' then ' ' else c) = escapeChar c := by
      refine (List.map_congr_left fun other hother => ?_).trans (List.map_id _)
      rw [if_neg (isPartChar_of_mem_escapeChar hother).2, id]
    rw [hkept]
    exact bytes_flatMap_escapeByte _ rest

/-- A name or value is read back. -/
theorem unquoteForm_formPart (s : String) : unquoteForm (formPart s) = s.toList := by
  have hbytes (s : List Char) :
      bytes ((s.flatMap formChar).map fun c => if c = '+' then ' ' else c) = Utf8.encode s := by
    induction s with
    | nil => rfl
    | cons c s ih =>
      rw [List.flatMap_cons, List.map_append, bytes_formChar, ih]
      rfl
  rw [unquoteForm, unquote, formPart_eq, hbytes, Utf8.decodeLossy_encode]

/-! ### Queries -/

/-- A pair in a query. -/
def formPair (pair : String × String) : List Char := formPart pair.1 ++ '=' :: formPart pair.2

lemma formText_eq (pairs : List (String × String)) :
    formText pairs = joinWithChar '&' (pairs.map formPair) := rfl

lemma notMem_formPart {c : Char} (hc : isPartChar c = false) (s : String) : c ∉ formPart s := by
  intro hmem
  rw [isPartChar_of_mem_formPart hmem] at hc
  cases hc

/-- The characters of a query. -/
def isFormChar (c : Char) : Bool := isPartChar c || c = '=' || c = '&'

lemma isFormChar_of_mem_formText {pairs : List (String × String)} {c : Char}
    (hc : c ∈ formText pairs) : isFormChar c = true := by
  have hpair {pair : String × String} {c : Char} (hc : c ∈ formPair pair) :
      isFormChar c = true := by
    rw [formPair, List.mem_append, List.mem_cons] at hc
    rw [isFormChar]
    obtain hname | rfl | hvalue := hc
    · rw [isPartChar_of_mem_formPart hname]
      rfl
    · decide
    · rw [isPartChar_of_mem_formPart hvalue]
      rfl
  rw [formText_eq] at hc
  induction pairs with
  | nil => cases hc
  | cons pair pairs ih =>
    cases pairs with
    | nil => exact hpair hc
    | cons next pairs =>
      rw [List.map_cons, List.map_cons, joinWithChar, List.mem_append, List.mem_cons] at hc
      · obtain hfirst | rfl | hrest := hc
        · exact hpair hfirst
        · decide
        · exact ih hrest
      · simp

/-- A pair is split at its equals sign. -/
lemma splitPair_formPair (pair : String × String) :
    splitPair (formPair pair) = (formPart pair.1, formPart pair.2) := by
  have hname : ∀ c ∈ formPart pair.1, decide (c ≠ '=') = true := by
    intro c hc
    refine decide_eq_true ?_
    rintro rfl
    exact notMem_formPart (by decide) pair.1 hc
  rw [splitPair, formPair, List.takeWhile_append_of_pos hname, List.dropWhile_append_of_pos hname]
  simp

/-- The pairs of a query are read back. -/
theorem formPairs_formText (pairs : List (String × String)) :
    formPairs (formText pairs) = pairs := by
  have hread : (pairs.map formPair).map (fun piece =>
      (String.ofList (unquoteForm (splitPair piece).1),
        String.ofList (unquoteForm (splitPair piece).2))) = pairs := by
    rw [List.map_map]
    refine (List.map_congr_left fun pair _ => ?_).trans (List.map_id pairs)
    simp only [Function.comp_apply, splitPair_formPair, unquoteForm_formPart, String.ofList_toList,
      id]
  -- no part holds what stands between the pairs, and no pair is empty
  have hpieces : (splitAtChar '&' (formText pairs)).filter (fun piece => !piece.isEmpty) =
      pairs.map formPair := by
    cases pairs with
    | nil => rfl
    | cons pair more =>
      rw [formText_eq, splitAtChar_joinWithChar]
      · refine List.filter_eq_self.2 fun piece hpiece => ?_
        obtain ⟨pair, -, rfl⟩ := List.mem_map.1 hpiece
        simp [formPair]
      · simp
      · intro piece hpiece
        obtain ⟨pair, -, rfl⟩ := List.mem_map.1 hpiece
        rw [formPair, List.mem_append, List.mem_cons]
        simp [notMem_formPart (by decide : isPartChar '&' = false)]
  rw [formPairs, hpieces, hread]

/-! ### Lengths -/

/-- A character has four bytes at most, and a byte three characters. -/
lemma length_formChar_le (c : Char) : (formChar c).length ≤ 12 := by
  have hbytes := c.utf8Size_le_four
  have hbyte (byte : UInt8) : (escapeByte byte).length = 3 := rfl
  rw [formChar]
  split_ifs
  · simp
  · simp
  · rw [escapeChar, List.length_flatMap]
    simp only [hbyte, List.map_const', List.sum_replicate, String.length_utf8EncodeChar,
      smul_eq_mul]
    omega

lemma length_formPart_le (s : String) : (formPart s).length ≤ 12 * s.length := by
  rw [formPart_eq, ← String.length_toList]
  induction s.toList with
  | nil => simp
  | cons c rest ih =>
    have hfirst := length_formChar_le c
    rw [List.flatMap_cons, List.length_append, List.length_cons]
    omega

/-- The room that pairs need in a query. -/
def formRoom (pairs : List (String × String)) : ℕ :=
  (pairs.map fun pair => 12 * (pair.1.length + pair.2.length) + 2).sum

lemma length_formText_le (pairs : List (String × String)) :
    (formText pairs).length ≤ formRoom pairs := by
  have hpair (pair : String × String) :
      (formPair pair).length ≤ 12 * (pair.1.length + pair.2.length) + 1 := by
    have hname := length_formPart_le pair.1
    have hvalue := length_formPart_le pair.2
    rw [formPair, List.length_append, List.length_cons]
    omega
  rw [formText_eq]
  induction pairs with
  | nil => simp [joinWithChar]
  | cons pair more ih =>
    have hfirst := hpair pair
    cases more with
    | nil =>
      simp only [formRoom, List.map_cons, List.map_nil, joinWithChar, List.sum_cons, List.sum_nil]
      omega
    | cons next more =>
      have hjoin : joinWithChar '&' ((pair :: next :: more).map formPair) =
          formPair pair ++ '&' :: joinWithChar '&' ((next :: more).map formPair) := rfl
      have hroom : formRoom (pair :: next :: more) =
          12 * (pair.1.length + pair.2.length) + 2 + formRoom (next :: more) := rfl
      rw [hjoin, hroom, List.length_append, List.length_cons]
      omega

end RuleFixtures.Text.Percent
