import RuleFixtures.Proofs.PromQL.Names
import RuleFixtures.Proofs.Time.DurationText

/-!
Reading a metric name with a range behind it.

* `Token.scanFrom?_cons` is one step of the scanner, in front of a character that starts a token.
* `Token.readNumber?_span`: a number that goes on with a letter is read as a duration.
* `IsPlainName` holds of the words that can only be names of metrics.
* `Expr.parse?_range`: such a name with the text of a duration in brackets is read as the samples
  of the name over that duration.
-/

namespace RuleFixtures.PromQL

namespace Token

/-! ### Steps of the scanner -/

/-- The character starts a token. -/
def Starts (c : Char) : Prop := isSpace c = false ∧ c ≠ '#'

instance : DecidablePred Starts := fun _ => by unfold Starts; infer_instance

lemma starts_of_isNameChar {c : Char} (h : isNameChar c = true) : Starts c := by
  have hspace : c ≠ ' ' ∧ c ≠ '\t' ∧ c ≠ '\n' ∧ c ≠ '\r' ∧ c ≠ '#' := by
    refine ⟨?_, ?_, ?_, ?_, ?_⟩ <;> rintro rfl <;> exact absurd h (by decide)
  simpa [Starts, isSpace, and_assoc] using hspace

lemma skipSpace_cons {c : Char} (hc : Starts c) (rest : List Char) :
    skipSpace (c :: rest) = c :: rest := by
  rw [skipSpace, if_neg (by simp [hc.1]), if_neg hc.2]

/-- The scanner reads the token in front of it and goes on behind the token. -/
lemma scanFrom?_cons {inBrackets : Bool} (inside : Bool) {done : List Token} {c : Char}
    {tail rest : List Char} {token : Token} (hc : Starts c)
    (hnext : next? inBrackets (c :: tail) = some (token, rest))
    (hrest : rest.length < (c :: tail).length)
    (hinside : ((inBrackets || token = .symbol "[") && token ≠ .symbol "]") = inside) :
    scanFrom? inBrackets done (c :: tail) = scanFrom? inside (token :: done) rest := by
  rw [scanFrom?, skipSpace_cons hc tail]
  simp only [List.isEmpty_cons, Bool.false_eq_true, if_false, hnext, if_pos hrest, hinside]

/-- Digits, a letter that is no exponent and more. -/
lemma splitNumber_letter {digits : List Char} (tail : List Char) {c : Char}
    (hdigits : Digits digits) (hc : c.isAlpha = true) (hexponent : c ≠ 'e' ∧ c ≠ 'E') :
    splitNumber (digits ++ c :: tail) = (digits, c :: tail) := by
  have hpoint : c ≠ '.' := by
    rintro rfl
    exact absurd hc (by decide)
  have hstop : ∀ d ∈ (c :: tail).head?, d.isDigit = false := by
    rintro d hd
    obtain rfl : c = d := by simpa using hd
    exact DurationText.isDigit_eq_false_of_isAlpha hc
  obtain ⟨htake, hdrop⟩ := hdigits.span hstop
  have hdecimal : DecimalReader.splitDecimal (digits ++ c :: tail) = (digits, [], c :: tail) := by
    rw [DecimalReader.splitDecimal, htake, hdrop]
    split
    · next h => exact absurd (List.cons.inj h).1 hpoint
    · rfl
  simp [splitNumber, hdecimal, hexponent.1, hexponent.2]

/-- A number that goes on with a letter is a duration: the digits and letters in front. -/
lemma readNumber?_span {digits : List Char} (tail : List Char) {c : Char} (hdigits : Digits digits)
    (hne : digits ≠ []) (hc : c.isAlpha = true) (hnumber : c ∉ ['e', 'E', 'x', 'X']) :
    readNumber? (digits ++ c :: tail) =
      (DurationText.read? ((digits ++ c :: tail).takeWhile isWordChar)).map fun ms =>
        (.span ms, (digits ++ c :: tail).drop
          ((digits ++ c :: tail).takeWhile isWordChar).length) := by
  simp only [List.mem_cons, List.not_mem_nil, or_false, not_or] at hnumber
  have hsplit := splitNumber_letter tail hdigits hc ⟨hnumber.1, hnumber.2.1⟩
  have hstarts : startsWithWordChar (c :: tail) = true := by
    simp [startsWithWordChar, isWordChar, isLetter, hc]
  -- behind a zero there is a digit or the letter
  have hdecimal : ∀ x rest, digits ++ c :: tail = '0' :: x :: rest → x ≠ 'x' ∧ x ≠ 'X' := by
    intro x rest hsecond
    obtain ⟨first, others, rfl⟩ := List.exists_cons_of_ne_nil hne
    cases others with
    | nil =>
      obtain rfl : c = x := (List.cons.inj (List.cons.inj hsecond).2).1
      exact hnumber.2.2
    | cons d more =>
      obtain rfl : d = x := (List.cons.inj (List.cons.inj hsecond).2).1
      have hd : d.isDigit = true := hdigits d (by simp)
      exact ⟨ne_of_isDigit hd rfl, ne_of_isDigit hd rfl⟩
  simp only [readNumber?]
  split
  · next hhex =>
    split at hhex
    · next hsecond => simp [hdecimal _ _ hsecond] at hhex
    · cases hhex
  · simp only [hsplit, hstarts, if_true]

/-- A word is read up to the bracket behind it. -/
lemma next?_word {c : Char} {name : List Char} (tail : List Char)
    (hname : ∀ d ∈ c :: name, isNameChar d = true) (hfirst : c.isDigit = false) :
    next? false (c :: name ++ '[' :: tail) =
      some (.word (String.ofList (c :: name)), '[' :: tail) := by
  have hletter : (isLetter c || c = ':') = true := by
    have hc := hname c (by simp)
    simpa [isNameChar, isWordChar, hfirst] using hc
  have hother : c ≠ '.' ∧ c ≠ '"' ∧ c ≠ '\'' ∧ c ≠ '\x60' := by
    refine ⟨?_, ?_, ?_, ?_⟩ <;> rintro rfl <;> exact absurd hletter (by decide)
  have htake : (c :: (name ++ '[' :: tail)).takeWhile isNameChar = c :: name := by
    rw [← List.cons_append, List.takeWhile_append_of_pos hname,
      List.takeWhile_cons_of_neg (by decide), List.append_nil]
  have hdrop : (c :: (name ++ '[' :: tail)).dropWhile isNameChar = '[' :: tail := by
    rw [← List.cons_append, List.dropWhile_append_of_pos hname,
      List.dropWhile_cons_of_neg (by decide)]
  rw [List.cons_append, next?]
  simp only [Bool.false_and, Bool.false_eq_true, if_false, hfirst, hother, decide_false,
    Bool.or_false, hletter, if_true, htake, hdrop]

/-- The names of units can stand behind a number, and are no part of it. -/
lemma units_behind_numbers : ∀ unit ∈ DurationText.units, ∀ c ∈ unit.1.head?,
    c ∉ ['e', 'E', 'x', 'X'] := by
  simp [DurationText.units]

/-- The text of a duration is one of digits and letters: the digits of a count, and a letter that is
no part of a number. -/
lemma exists_digits_letter {text : String} {ms : ℕ} (htext : DurationText.Writes text ms)
    (hms : ms ≠ 0) :
    (∀ c ∈ text.toList, isWordChar c = true) ∧
      ∃ digits c rest, text.toList = digits ++ c :: rest ∧ Digits digits ∧ digits ≠ [] ∧
        c.isAlpha = true ∧ c ∉ ['e', 'E', 'x', 'X'] := by
  obtain ⟨parts, hbreakdown, hparts⟩ := htext.parts hms
  have hnames : ∀ part ∈ parts, DurationText.IsName part.unit.1 := fun part hpart =>
    DurationText.isName_units _ (hbreakdown.order.subset (List.mem_map_of_mem hpart))
  constructor
  · rw [hparts]
    refine List.forall_mem_flatMap.2 fun part hpart => List.forall_mem_append.2 ⟨?_, ?_⟩
    · intro c hc
      simp [isWordChar, Digits.toDigits part.count c hc]
    · intro c hc
      simp [isWordChar, isLetter, (hnames part hpart).2 c hc]
  · obtain ⟨part, rest, rfl⟩ := DurationText.exists_cons_of_total hbreakdown.total hms
    have hunit : part.unit ∈ DurationText.units := hbreakdown.order.subset (by simp)
    have hname := hnames part (by simp)
    obtain ⟨c, letters, hletters⟩ := List.exists_cons_of_ne_nil hname.1
    refine ⟨Nat.toDigits 10 part.count, c, letters ++ rest.flatMap DurationText.Part.text, ?_,
      Digits.toDigits _, Nat.toDigits_ne_nil, hname.2 c (by simp [hletters]),
      units_behind_numbers _ hunit c (by simp [hletters])⟩
    rw [hparts, List.flatMap_cons, DurationText.Part.text, hletters, List.append_assoc,
      List.cons_append]

lemma exists_cons_of_writes {text : String} {ms : ℕ} (htext : DurationText.Writes text ms)
    (hms : ms ≠ 0) : ∃ c rest, text.toList = c :: rest := by
  obtain ⟨-, digits, c, rest, hsplit, -⟩ := exists_digits_letter htext hms
  exact List.exists_cons_of_ne_nil (by simp [hsplit])

/-- The text of a duration is read up to the bracket behind it. -/
lemma next?_duration {text : String} {ms : ℕ} (htext : DurationText.Writes text ms) (hms : ms ≠ 0)
    {c : Char} {rest : List Char} (hcons : text.toList = c :: rest) (tail : List Char) :
    c.isDigit = true ∧
      next? true (c :: (rest ++ ']' :: tail)) = some (.span ms, ']' :: tail) := by
  obtain ⟨hchars, digits, letter, letters, hsplit, hdigits, hne, hletter, hnumber⟩ :=
    exists_digits_letter htext hms
  have hdigit : c.isDigit = true := by
    obtain ⟨d, others, rfl⟩ := List.exists_cons_of_ne_nil hne
    rw [hcons] at hsplit
    rw [(List.cons.inj hsplit).1]
    exact hdigits d (by simp)
  have htake : (text.toList ++ ']' :: tail).takeWhile isWordChar = text.toList := by
    rw [List.takeWhile_append_of_pos hchars, List.takeWhile_cons_of_neg (by decide),
      List.append_nil]
  have hread := readNumber?_span (letters ++ ']' :: tail) hdigits hne hletter hnumber
  rw [← List.cons_append, ← List.append_assoc, ← hsplit, htake, htext.read, List.drop_left,
    Option.map_some, hcons, List.cons_append] at hread
  have hcolon : c ≠ ':' := ne_of_isDigit hdigit rfl
  refine ⟨hdigit, ?_⟩
  rw [next?]
  simp only [Bool.true_and, hcolon, decide_false, Bool.false_eq_true, if_false, hdigit,
    Bool.true_or, if_true, hread]

/-- The tokens of a name with a duration in brackets. -/
theorem scan?_range {name text : String} (hname : IsName name)
    (hfirst : ∀ c ∈ name.toList.head?, c.isDigit = false) {ms : ℕ}
    (htext : DurationText.Writes text ms) (hms : ms ≠ 0) :
    scan? (name ++ "[" ++ text ++ "]") =
      some [.word name, .symbol "[", .span ms, .symbol "]"] := by
  obtain ⟨c, letters, hletters⟩ := List.exists_cons_of_ne_nil
    (mt String.toList_eq_nil_iff.1 hname.1)
  obtain ⟨d, others, hcons⟩ := exists_cons_of_writes htext hms
  have hchars : (name ++ "[" ++ text ++ "]").toList =
      c :: (letters ++ '[' :: d :: (others ++ [']'])) := by
    simp [hletters, hcons]
  -- the four tokens, each up to the first character of the next one
  have hword := next?_word (d :: (others ++ [']'])) (hletters ▸ hname.2)
    (hfirst c (by simp [hletters]))
  obtain ⟨hdigit, hduration⟩ := next?_duration htext hms hcons []
  have hnameChar : isNameChar c = true := hname.2 c (by simp [hletters])
  rw [List.cons_append, ← hletters, String.ofList_toList] at hword
  have hdigitChar : isNameChar d = true := by simp [isNameChar, isWordChar, hdigit]
  have hopen : next? false ('[' :: d :: (others ++ [']'])) =
      some (.symbol "[", d :: (others ++ [']'])) := rfl
  have hclose : next? true [']'] = some (.symbol "]", []) := by decide
  rw [scan?, hchars,
    scanFrom?_cons false (starts_of_isNameChar hnameChar) hword (by simp) (by simp),
    scanFrom?_cons true (by decide) hopen (by simp) (by decide),
    scanFrom?_cons true (starts_of_isNameChar hdigitChar) hduration (by simp) (by simp),
    scanFrom?_cons false (by decide) hclose (by simp) (by decide), scanFrom?, skipSpace]
  rfl

end Token

/-- A word that can only be the name of a metric. -/
structure IsPlainName (name : String) : Prop where
  isName : Token.IsName name
  first : ∀ c ∈ name.toList.head?, c.isDigit = false
  free : Grammar.lower name ∉ "inf" :: "nan" :: Grammar.reserved

/-- A name with a duration in brackets is read as the samples of the name over the duration. -/
lemma Grammar.whole?_range {name : String} (hfree : lower name ∉ "inf" :: "nan" :: reserved)
    {ms : ℕ} (hms : 0 < ms) :
    whole? [.word name, .symbol "[", .span ms, .symbol "]"] =
      some (.range ⟨some name, [], [], none, none⟩ ms) := by
  simp only [List.mem_cons, not_or] at hfree
  have hreserved : reserved.contains (lower name) = false := by simpa using hfree.2.2
  have hbounds : bounds? [.span ms, .symbol "]"] = some (ms, none, []) := by
    simp [bounds?, duration?, hms]
  -- from the inside out: the name, its brackets, the operand, the expression
  have hprimary (fuel : ℕ) :
      primary? (fuel + 1) [.word name, .symbol "[", .span ms, .symbol "]"] =
        some (.selector ⟨some name, [], [], none, none⟩, [.symbol "[", .span ms, .symbol "]"]) := by
    rw [primary?]
    · simp [hfree, opensAggregation, selector?]
    all_goals simp
  have hsuffix (fuel : ℕ) : suffixes? (fuel + 2) (.selector ⟨some name, [], [], none, none⟩)
      [.symbol "[", .span ms, .symbol "]"] =
        some (.range ⟨some name, [], [], none, none⟩ ms, []) := by
    rw [suffixes?, hbounds]
    simp [withRange?, suffixes?]
  have hoperand (fuel : ℕ) :
      operand? (fuel + 2) [.word name, .symbol "[", .span ms, .symbol "]"] =
        some (.range ⟨some name, [], [], none, none⟩ ms, []) := by
    rw [operand?]
    · rw [hprimary]
      exact hsuffix 2
    all_goals simp
  have hexpression (fuel : ℕ) :
      expression? (fuel + 3) 1 [.word name, .symbol "[", .span ms, .symbol "]"] =
        some (.range ⟨some name, [], [], none, none⟩ ms, []) := by
    rw [expression?, hoperand]
    simp [operations?]
  rw [whole?, hexpression]
  rfl

/-- A plain name with the text of a duration in brackets is read as the samples of the name over the
duration. -/
theorem Expr.parse?_range {name text : String} (hname : IsPlainName name) {ms : ℕ}
    (htext : DurationText.Writes text ms) (hms : 0 < ms) :
    Expr.parse? (name ++ "[" ++ text ++ "]") =
      some (.range ⟨some name, [], [], none, none⟩ ms) := by
  have htokens := Token.scan?_range hname.isName hname.first htext (Nat.ne_of_gt hms)
  rw [Expr.parse?, htokens, Option.bind_some, Grammar.whole?_range hname.free hms]
  rfl

end RuleFixtures.PromQL
