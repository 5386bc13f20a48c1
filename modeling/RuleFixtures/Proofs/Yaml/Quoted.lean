import Mathlib.Tactic
import RuleFixtures.Proofs.Text.Hex
import RuleFixtures.Proofs.Yaml.Reader

/-!
Texts in quotes are read back.

* `Scalar.readDouble?_flatMap`: a text in double quotes is read back.
* `Scalar.readSingle?_singleBody`: a text in single quotes is read with its breaks folded;
  `Scalar.refold` is the text that is read, and `Scalar.refold_lineFeed_eq_iff` says when it is the
  one that was written.
-/

namespace RuleFixtures

namespace Yaml.Scalar

/-! ### Double quotes -/

/-- A character is read from its code. -/
lemma ofCode?_upperHexDigits {width : ℕ} (c : Char) (hwidth : c.toNat < 16 ^ width) :
    ofCode? (Text.upperHexDigits width c.toNat) = some c := by
  have hvalid : c.toNat.isValidChar := c.valid
  rw [ofCode?, Text.hexNumber?_upperHexDigits, Nat.mod_eq_of_lt hwidth]
  simp [hvalid, Char.ofNat_toNat]

/-- A character is read from its letter, which is none of those in front of a code. -/
lemma ofLetter?_of_lookup {c letter : Char}
    (h : doubleChar.lookupLetter c escapeLetters = some letter) :
    ofLetter? letter = some c ∧ letter ≠ 'x' ∧ letter ≠ 'u' ∧ letter ≠ 'U' := by
  have hletters : ∀ entry ∈ escapeLetters,
      ofLetter? entry.2 = some entry.1 ∧ entry.2 ≠ 'x' ∧ entry.2 ≠ 'u' ∧ entry.2 ≠ 'U' := by
    decide
  obtain ⟨entry, hfound, rfl⟩ := Option.map_eq_some_iff.1 h
  have hc : entry.1 = c := by simpa using List.find?_some hfound
  rw [← hc]
  exact hletters entry (List.mem_of_find?_eq_some hfound)

lemma readDouble?_letter {c letter : Char} (hletter : ofLetter? letter = some c) (hx : letter ≠ 'x')
    (hu : letter ≠ 'u') (hU : letter ≠ 'U') (rest : List Char) :
    readDouble? ('\\' :: letter :: rest) =
      (readDouble? rest).map fun (s, after) => (c :: s, after) := by
  rw [readDouble?, hletter]
  · cases readDouble? rest <;> rfl
  all_goals simp [hx, hu, hU]

/-- A character is read from as many digits as the letter in front of them asks for. -/
lemma readDouble?_code {letter c : Char} {width : ℕ}
    (hletter : (letter, width) ∈ [('x', 2), ('u', 4), ('U', 8)]) (hwidth : c.toNat < 16 ^ width)
    (rest : List Char) :
    readDouble? ('\\' :: letter :: Text.upperHexDigits width c.toNat ++ rest) =
      (readDouble? rest).map fun (s, after) => (c :: s, after) := by
  have hcode := ofCode?_upperHexDigits c hwidth
  simp only [List.mem_cons, List.not_mem_nil, or_false, Prod.mk.injEq] at hletter
  rcases hletter with ⟨rfl, rfl⟩ | ⟨rfl, rfl⟩ | ⟨rfl, rfl⟩
  all_goals
    simp only [Text.upperHexDigits, Text.hexDigits, List.map_cons, List.map_nil, List.nil_append,
      List.cons_append] at hcode ⊢
    rw [readDouble?, hcode]
    cases readDouble? rest <;> rfl

/-- A character in double quotes is read back. -/
lemma readDouble?_doubleChar (c : Char) (rest : List Char) :
    readDouble? (doubleChar c ++ rest) =
      (readDouble? rest).map fun (s, after) => (c :: s, after) := by
  rw [doubleChar]
  split
  · next hraw => exact readDouble?_raw hraw rest
  · split
    · next letter hletter =>
      obtain ⟨hback, hx, hu, hU⟩ := ofLetter?_of_lookup hletter
      exact readDouble?_letter hback hx hu hU rest
    · have hwide : c.toNat < 16 ^ 8 := c.val.toNat_lt
      split_ifs with hbyte hshort
      · exact readDouble?_code (by simp) hbyte rest
      · exact readDouble?_code (by simp) hshort rest
      · exact readDouble?_code (by simp) hwide rest

/-- A text in double quotes is read back. -/
lemma readDouble?_flatMap (s rest : List Char) :
    readDouble? (s.flatMap doubleChar ++ '"' :: rest) = some (s, rest) := by
  induction s with
  | nil => rfl
  | cons c s ih =>
    rw [List.flatMap_cons, List.append_assoc, readDouble?_doubleChar, ih]
    rfl

/-! ### Single quotes -/

/-- What a run of breaks in single quotes reads as; a line feed in front is written twice. -/
def readRun (asBreak : Char → Char) (run : List Char) : List Char :=
  Gap.fold ((if run.head? = some '\n' then '\n' :: run else run).map asBreak)

/-- What a text in single quotes reads as, behind a run of breaks. -/
def refold (asBreak : Char → Char) (run : List Char) : List Char → List Char
  | [] => readRun asBreak run
  | c :: rest =>
    if isBreak c then refold asBreak (run ++ [c]) rest
    else readRun asBreak run ++ c :: refold asBreak [] rest

section Single

variable {asBreak : Char → Char} {gap : Gap} {rest : List Char} {c : Char}

lemma refold_break {run s : List Char} (hc : isBreak c = true) :
    refold asBreak run (c :: s) = refold asBreak (run ++ [c]) s := by
  rw [refold, if_pos hc]

lemma refold_word {run s : List Char} (hc : isBreak c = false) :
    refold asBreak run (c :: s) = readRun asBreak run ++ c :: refold asBreak [] s := by
  rw [refold, hc, if_neg Bool.false_ne_true]

lemma readSingle?_close (hrest : rest.head? ≠ some '\'') :
    readSingle? asBreak gap ('\'' :: rest) = some (gap.text, rest) := by
  cases rest with
  | nil => rfl
  | cons c rest =>
    have hc : c ≠ '\'' := by simpa using hrest
    rw [readSingle?, if_pos rfl]
    simp [hc]

lemma readSingle?_break (hc : isBreak c = true) (hrest : startsDocument rest = false) :
    readSingle? asBreak gap (c :: rest) = readSingle? asBreak (gap.withBreak (asBreak c)) rest := by
  have hquote : c ≠ '\'' := by
    rintro rfl
    exact absurd hc (by decide)
  have hspace : c ≠ ' ' := by
    rintro rfl
    exact absurd hc (by decide)
  rw [readSingle?, if_neg hquote, if_neg hspace, if_pos hc, hrest]
  · rfl
  · simp [hquote]

lemma readSingle?_char (hquote : c ≠ '\'') (hspace : c ≠ ' ') (hbreak : isBreak c = false)
    (hspecial : isSpecial c = false) :
    readSingle? asBreak gap (c :: rest) =
      (readSingle? asBreak {} rest).map fun (s, after) => (gap.text ++ c :: s, after) := by
  rw [readSingle?, if_neg hquote, if_neg hspace, hbreak, hspecial]
  · rfl
  · simp [hquote]

/-- Spaces behind breaks do not count. -/
lemma readSingle?_indentation (hbreaks : gap.breaks ≠ []) (indent : ℕ) :
    readSingle? asBreak gap (indentation indent ++ rest) = readSingle? asBreak gap rest := by
  induction indent with
  | zero => rfl
  | succ indent ih =>
    have hgap : gap.space = gap := if_neg hbreaks
    rw [indentation, List.replicate_succ, List.cons_append, readSingle?_space, hgap]
    exact ih

lemma startsDocument_cons (hdash : c ≠ '-') (hpoint : c ≠ '.') :
    startsDocument (c :: rest) = false := by
  simp [startsDocument, List.isPrefixOf, hdash.symm, hpoint.symm]

lemma startsDocument_break (hc : isBreak c = true) : startsDocument (c :: rest) = false := by
  refine startsDocument_cons ?_ ?_
  all_goals
    rintro rfl
    exact absurd hc (by decide)

/-- Behind breaks a line starts with another break or with a space. -/
lemma startsDocument_singleBody {indent : ℕ} (hindent : 0 < indent) (s : List Char) :
    startsDocument (singleBody indent true s ++ rest) = false := by
  obtain ⟨indent, rfl⟩ := Nat.exists_eq_succ_of_ne_zero (Nat.ne_of_gt hindent)
  cases s with
  | nil => exact startsDocument_cons (by decide) (by decide)
  | cons c s =>
    rw [singleBody]
    split
    · next hc => exact startsDocument_break hc
    · exact startsDocument_cons (by decide) (by decide)

/-- The breaks of a gap when a run of breaks has been read. -/
def runGap (asBreak : Char → Char) (spaces : ℕ) (run : List Char) : Gap where
  spaces := spaces
  breaks := (if run.head? = some '\n' then '\n' :: run else run).map asBreak

lemma runGap_withBreak {run : List Char} (hrun : run ≠ []) (spaces : ℕ) :
    (runGap asBreak spaces run).withBreak (asBreak c) = runGap asBreak spaces (run ++ [c]) := by
  obtain ⟨first, run, rfl⟩ := List.exists_cons_of_ne_nil hrun
  by_cases hfirst : first = '\n' <;> simp [runGap, Gap.withBreak, hfirst]

lemma runGap_breaks {run : List Char} (hrun : run ≠ []) (spaces : ℕ) :
    (runGap asBreak spaces run).breaks ≠ [] := by
  simp only [runGap]
  split <;> simp [hrun]

lemma runGap_text {run : List Char} (hrun : run ≠ []) (spaces : ℕ) :
    (runGap asBreak spaces run).text = readRun asBreak run := if_neg (runGap_breaks hrun spaces)

/-- A space and a break do not stand side by side. -/
lemma hasSpaceAtBreak_cons {s : List Char} (h : hasSpaceAtBreak (c :: s) = false) :
    hasSpaceAtBreak s = false ∧ (c = ' ' → ∀ d ∈ s.head?, isBreak d = false) ∧
      (isBreak c = true → s.head? ≠ some ' ') := by
  cases s with
  | nil => exact ⟨rfl, by simp, by simp⟩
  | cons d s =>
    simp only [hasSpaceAtBreak, Bool.or_eq_false_iff] at h
    obtain ⟨⟨hspace, hbreak⟩, hrest⟩ := h
    refine ⟨hrest, ?_, ?_⟩
    · rintro rfl _ ⟨⟩
      simpa using hspace
    · intro hc
      simpa [hc] using hbreak

lemma singleBody_break (indent : ℕ) (s : List Char) (hc : isBreak c = true) :
    singleBody indent false (c :: s) =
      if c = '\n' then '\n' :: '\n' :: singleBody indent true s
      else c :: singleBody indent true s := by
  rw [singleBody, if_pos hc]
  by_cases hfeed : c = '\n' <;> simp [hfeed]

lemma singleBody_nextBreak (indent : ℕ) (s : List Char) (hc : isBreak c = true) :
    singleBody indent true (c :: s) = c :: singleBody indent true s := by
  rw [singleBody, if_pos hc]
  rfl

lemma singleBody_word (indent : ℕ) (inBreaks : Bool) (s : List Char) (hc : isBreak c = false) :
    singleBody indent inBreaks (c :: s) =
      (if inBreaks then indentation indent else []) ++
        ((if c = '\'' then ['\'', '\''] else [c]) ++ singleBody indent false s) := by
  rw [singleBody, hc, if_neg (by decide), List.append_assoc]

/-- Behind spaces, the rest of a text in single quotes is read if it does not start with a break. -/
def ReadsBehindSpaces (asBreak : Char → Char) (indent : ℕ) (rest s : List Char) : Prop :=
  ∀ spaces, (0 < spaces → ∀ c ∈ s.head?, isBreak c = false) →
    readSingle? asBreak ⟨spaces, []⟩ (singleBody indent false s ++ '\'' :: rest) =
      some (List.replicate spaces ' ' ++ refold asBreak [] s, rest)

/-- Behind a run of breaks, the rest of a text in single quotes is read if it does not start with a
space. -/
def ReadsBehindBreaks (asBreak : Char → Char) (indent : ℕ) (rest s : List Char) : Prop :=
  ∀ spaces run, run ≠ [] → s.head? ≠ some ' ' →
    readSingle? asBreak (runGap asBreak spaces run) (singleBody indent true s ++ '\'' :: rest) =
      some (refold asBreak run s, rest)

variable {indent : ℕ} {s : List Char}

lemma ReadsBehindSpaces.of_break (hindent : 0 < indent) (hc : isBreak c = true)
    (hhead : s.head? ≠ some ' ') (hs : ReadsBehindBreaks asBreak indent rest s) :
    ReadsBehindSpaces asBreak indent rest (c :: s) := by
  intro spaces hspaces
  obtain rfl : spaces = 0 := by
    by_contra hne
    have := hspaces (Nat.pos_of_ne_zero hne) c rfl
    rw [hc] at this
    cases this
  have hread := hs 0 [c] (by simp) hhead
  have hstarts : startsDocument (singleBody indent true s ++ '\'' :: rest) = false :=
    startsDocument_singleBody hindent s
  rw [singleBody_break indent s hc, refold_break hc]
  split
  · next hfeed =>
    subst hfeed
    rw [List.cons_append, List.cons_append, readSingle?_break hc (startsDocument_break hc),
      readSingle?_break hc hstarts]
    exact hread
  · next hother =>
    have hgap : (⟨0, [asBreak c]⟩ : Gap) = runGap asBreak 0 [c] := by simp [runGap, hother]
    rw [List.cons_append, readSingle?_break hc hstarts, Gap.withBreak, List.nil_append, hgap, hread]
    rfl

lemma ReadsBehindBreaks.of_break (hindent : 0 < indent) (hc : isBreak c = true)
    (hhead : s.head? ≠ some ' ') (hs : ReadsBehindBreaks asBreak indent rest s) :
    ReadsBehindBreaks asBreak indent rest (c :: s) := by
  intro spaces run hrun _
  rw [singleBody_nextBreak indent s hc, List.cons_append,
    readSingle?_break hc (startsDocument_singleBody hindent s), runGap_withBreak hrun,
    hs spaces (run ++ [c]) (by simp) hhead, refold_break hc]

/-- A character that is neither a space nor a break ends the gap in front of it. -/
lemma readSingle?_word (hspace : c ≠ ' ') (hbreak : isBreak c = false)
    (hspecial : isSpecial c = false) (hs : ReadsBehindSpaces asBreak indent rest s) (gap : Gap) :
    readSingle? asBreak gap
        ((if c = '\'' then ['\'', '\''] else [c]) ++ (singleBody indent false s ++ '\'' :: rest)) =
      some (gap.text ++ c :: refold asBreak [] s, rest) := by
  have hread := hs 0 fun h => absurd h (Nat.lt_irrefl 0)
  split
  · next hquote =>
    subst hquote
    rw [List.cons_append, List.cons_append, List.nil_append, readSingle?, hread]
    rfl
  · next hquote =>
    rw [List.cons_append, List.nil_append, readSingle?_char hquote hspace hbreak hspecial, hread]
    rfl

lemma ReadsBehindSpaces.of_char (hbreak : isBreak c = false) (hspecial : isSpecial c = false)
    (hhead : c = ' ' → ∀ d ∈ s.head?, isBreak d = false)
    (hs : ReadsBehindSpaces asBreak indent rest s) :
    ReadsBehindSpaces asBreak indent rest (c :: s) := by
  intro spaces _
  rw [singleBody_word indent false s hbreak, if_neg Bool.false_ne_true, List.nil_append,
    List.append_assoc, refold_word hbreak]
  by_cases hspace : c = ' '
  · subst hspace
    have hgap : Gap.space ⟨spaces, []⟩ = ⟨spaces + 1, []⟩ := rfl
    rw [if_neg (by decide), List.singleton_append, readSingle?_space, hgap,
      hs (spaces + 1) fun _ => hhead rfl, List.replicate_succ']
    simp [readRun, Gap.fold]
  · have hgap : Gap.text ⟨spaces, []⟩ = List.replicate spaces ' ' := rfl
    rw [readSingle?_word hspace hbreak hspecial hs, hgap]
    simp [readRun, Gap.fold]

lemma ReadsBehindBreaks.of_char (hbreak : isBreak c = false) (hspecial : isSpecial c = false)
    (hs : ReadsBehindSpaces asBreak indent rest s) :
    ReadsBehindBreaks asBreak indent rest (c :: s) := by
  intro spaces run hrun hhead
  have hspace : c ≠ ' ' := by simpa using hhead
  rw [singleBody_word indent true s hbreak, if_pos rfl, List.append_assoc,
    readSingle?_indentation (runGap_breaks hrun spaces), List.append_assoc,
    readSingle?_word hspace hbreak hspecial hs, runGap_text hrun, refold_word hbreak]

/-- A text in single quotes is read with its breaks folded. Behind a run of breaks no space
follows, and behind a space no break. -/
lemma reads_singleBody (hindent : 0 < indent) (hrest : rest.head? ≠ some '\'')
    (hspecial : s.any isSpecial = false) (hspace : hasSpaceAtBreak s = false) :
    ReadsBehindSpaces asBreak indent rest s ∧ ReadsBehindBreaks asBreak indent rest s := by
  induction s with
  | nil =>
    refine ⟨fun spaces _ => ?_, fun spaces run hrun _ => ?_⟩
    · rw [singleBody, if_neg (by decide), List.nil_append, readSingle?_close hrest]
      simp [Gap.text, refold, readRun, Gap.fold]
    · rw [singleBody, if_pos rfl, readSingle?_indentation (runGap_breaks hrun spaces),
        readSingle?_close hrest, runGap_text hrun, refold]
  | cons c s ih =>
    obtain ⟨hc, hspecial⟩ : isSpecial c = false ∧ s.any isSpecial = false := by
      simpa only [List.any_cons, Bool.or_eq_false_iff] using hspecial
    obtain ⟨hspace, hafterSpace, hafterBreak⟩ := hasSpaceAtBreak_cons hspace
    obtain ⟨hspaces, hbreaks⟩ := ih hspecial hspace
    -- both claims at once, since a break hands over to the second and a character to the first
    cases hbreak : isBreak c with
    | true =>
      exact ⟨.of_break hindent hbreak (hafterBreak hbreak) hbreaks,
        hbreaks.of_break hindent hbreak (hafterBreak hbreak)⟩
    | false => exact ⟨hspaces.of_char hbreak hc hafterSpace, .of_char hbreak hc hspaces⟩

/-- A text in single quotes is read up to its last quote. -/
lemma readSingle?_singleBody (hindent : 0 < indent) (hrest : rest.head? ≠ some '\'')
    (hsingle : isSingle s = true) :
    readSingle? asBreak {} (singleBody indent false s ++ '\'' :: rest) =
      some (refold asBreak [] s, rest) := by
  obtain ⟨hspecial, hspace⟩ : s.any isSpecial = false ∧ hasSpaceAtBreak s = false := by
    simpa only [isSingle, Bool.and_eq_true, Bool.not_eq_true'] using hsingle
  exact (reads_singleBody hindent hrest hspecial hspace).1 0 fun h => absurd h (Nat.lt_irrefl 0)

/-! ### What is kept -/

/-- Breaks that read as themselves are kept. -/
lemma readRun_eq {run : List Char} (hfeed : asBreak '\n' = '\n') (hrun : ∀ c ∈ run, asBreak c = c) :
    readRun asBreak run = run := by
  cases run with
  | nil => rfl
  | cons c more =>
    have hmap : (c :: more).map asBreak = c :: more :=
      (List.map_congr_left hrun).trans (List.map_id _)
    rw [readRun]
    by_cases hc : c = '\n'
    · subst hc
      rw [List.head?_cons, if_pos rfl, List.map_cons, hmap, hfeed]
      rfl
    · rw [List.head?_cons, if_neg (by simpa using hc), hmap, Gap.fold, if_neg hc]

/-- A text whose breaks read as themselves is kept. -/
lemma refold_eq {run s : List Char} (hfeed : asBreak '\n' = '\n') (hrun : ∀ c ∈ run, asBreak c = c)
    (hs : ∀ c ∈ s, asBreak c = c) : refold asBreak run s = run ++ s := by
  induction s generalizing run with
  | nil => rw [refold, readRun_eq hfeed hrun, List.append_nil]
  | cons c s ih =>
    obtain ⟨hc, hs⟩ := List.forall_mem_cons.1 hs
    cases hbreak : isBreak c with
    | true =>
      rw [refold_break hbreak, ih (List.forall_mem_append.2 ⟨hrun, by simpa using hc⟩) hs,
        List.append_assoc, List.singleton_append]
    | false => rw [refold_word hbreak, readRun_eq hfeed hrun, ih (by simp) hs, List.nil_append]

/-- A text without breaks is kept. -/
lemma refold_of_forall_not_isBreak {s : List Char} (hs : ∀ c ∈ s, isBreak c = false) :
    refold asBreak [] s = s := by
  induction s with
  | nil => rfl
  | cons c s ih =>
    obtain ⟨hc, hs⟩ := List.forall_mem_cons.1 hs
    rw [refold_word hc, ih hs]
    rfl

lemma lineFeed_ne (c : Char) : lineFeed c ≠ '\x85' := by
  rw [lineFeed]
  split
  · decide
  · assumption

/-- Folding adds no character but a space. -/
lemma mem_fold {run : List Char} (h : c ∈ Gap.fold run) : c ∈ run ∨ c = ' ' := by
  cases run with
  | nil => exact .inl h
  | cons first more =>
    rw [Gap.fold] at h
    split_ifs at h
    · exact .inr (List.mem_singleton.1 h)
    · exact .inl (List.mem_cons_of_mem _ h)
    · exact .inl h

/-- No next line is read from single quotes. -/
lemma nextLine_notMem_refold (run s : List Char) : '\x85' ∉ refold lineFeed run s := by
  -- a run of breaks is read as line feeds or as a space
  have hrun (run : List Char) : '\x85' ∉ readRun lineFeed run := by
    intro h
    obtain h | h := mem_fold h
    · obtain ⟨c, -, hc⟩ := List.mem_map.1 h
      exact lineFeed_ne c hc
    · exact absurd h (by decide)
  induction s generalizing run with
  | nil => exact hrun run
  | cons c s ih =>
    cases hbreak : isBreak c with
    | true =>
      rw [refold_break hbreak]
      exact ih _
    | false =>
      rw [refold_word hbreak, List.mem_append, List.mem_cons, not_or, not_or]
      refine ⟨hrun run, ?_, ih []⟩
      rintro rfl
      exact absurd hbreak (by decide)

/-- A text in single quotes is kept if and only if it has no next line. -/
lemma refold_lineFeed_eq_iff (s : List Char) : refold lineFeed [] s = s ↔ '\x85' ∉ s := by
  constructor
  · intro h
    rw [← h]
    exact nextLine_notMem_refold [] s
  · intro h
    refine refold_eq rfl (by simp) fun c hc => if_neg ?_
    rintro rfl
    exact h hc

end Single

end Yaml.Scalar

end RuleFixtures
