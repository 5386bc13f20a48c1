import RuleFixtures.Proofs.Labels.Key

/-!
Reading labels back from the key of a series.

The reader goes through a key character by character. Its place says in which part of the key it
is, together with what it has read so far.

* `SeriesKey.step` reads one character, `SeriesKey.run` several of them.
* `SeriesKey.read?` reads a whole key.
* `SeriesKey.run_pairTexts`: the labels in braces are read as they were written.
* `SeriesKey.readEntries?_keyText`: so are the name and the labels of a whole key.
-/

namespace RuleFixtures

namespace SeriesKey

/-! ### Names -/

/-- A name of letters, digits, underscores and the characters allowed further; no digit comes
first. -/
def isName (further : Char → Bool) (name : String) : Bool :=
  match name.toList with
  | [] => false
  | first :: rest =>
    (first.isAlpha || first = '_' || further first) &&
      rest.all fun c => c.isAlphanum || c = '_' || further c

/-- The name of a label. -/
def isLabelName (name : String) : Bool := isName (fun _ => false) name

/-- The name of a metric, in which colons may stand. -/
def isMetricName (name : String) : Bool := isName (fun c => c = ':') name

/-- No other characters stand in a name. -/
lemma ne_of_isName {further : Char → Bool} {name : String} (h : isName further name) {c d : Char}
    (hc : c ∈ name.toList) (hd : (d.isAlphanum || d = '_' || further d) = false) : c ≠ d := by
  rintro rfl
  have hallowed : (c.isAlphanum || c = '_' || further c) = true := by
    unfold isName at h
    split at h
    · cases h
    · next first rest hchars =>
      rw [hchars] at hc
      obtain ⟨hfirst, hrest⟩ := Bool.and_eq_true_iff.1 h
      rcases List.mem_cons.1 hc with rfl | hc
      · simp only [Char.isAlphanum, Bool.or_eq_true] at hfirst ⊢
        exact hfirst.imp_left (Or.imp_left Or.inl)
      · exact List.all_eq_true.1 hrest c hc
  rw [hd] at hallowed
  cases hallowed

/-! ### The reader -/

/-- Where the reader is in a key, and what it has read. -/
inductive Place where
  /-- In the name of the series. -/
  | name (read : List Char)
  /-- In the name of a label, after the name of the series and the labels before it. -/
  | label (name : String) (pairs : List (String × String)) (read : List Char)
  /-- After the sign that ends the name of a label. -/
  | equals (name : String) (pairs : List (String × String)) (label : String)
  /-- In the value of a label. -/
  | value (name : String) (pairs : List (String × String)) (label : String) (read : List Char)
  /-- After a backslash in the value of a label. -/
  | escape (name : String) (pairs : List (String × String)) (label : String) (read : List Char)
  /-- After the closing quote of a label. -/
  | quoted (name : String) (pairs : List (String × String))
  /-- After the comma that follows a label. -/
  | comma (name : String) (pairs : List (String × String))
  /-- After the closing brace. -/
  | closed (name : String) (pairs : List (String × String))
  deriving DecidableEq

/-- The character for which an escape stands, given by what follows the backslash. -/
def unescape? (c : Char) : Option Char :=
  if c = '\\' then some '\\' else if c = '"' then some '"' else if c = 'n' then some '\n' else none

/-- Reads one character. -/
def step : Place → Char → Option Place
  | .name read, c =>
    some (if c = '{' then .label (String.ofList read) [] [] else .name (read ++ [c]))
  | .label name pairs read, c =>
    if c = '=' then some (.equals name pairs (String.ofList read))
    else if c = '}' then if pairs = [] ∧ read = [] then some (.closed name []) else none
    else some (.label name pairs (read ++ [c]))
  | .equals name pairs label, c => if c = '"' then some (.value name pairs label []) else none
  | .value name pairs label read, c =>
    some (if c = '\\' then .escape name pairs label read
      else if c = '"' then .quoted name (pairs ++ [(label, String.ofList read)])
      else .value name pairs label (read ++ [c]))
  | .escape name pairs label read, c =>
    (unescape? c).map fun d => .value name pairs label (read ++ [d])
  | .quoted name pairs, c =>
    if c = ',' then some (.comma name pairs)
    else if c = '}' then some (.closed name pairs)
    else none
  | .comma name pairs, c => if c = ' ' then some (.label name pairs []) else none
  | .closed _ _, _ => none

/-- Reads several characters. -/
def run (place : Place) (chars : List Char) : Option Place := chars.foldlM step place

/-- The name and the labels that were read; a key may end after its name or its closing brace. -/
def finish? : Place → Option (String × List (String × String))
  | .name read => some (String.ofList read, [])
  | .closed name pairs => some (name, pairs)
  | _ => none

/-- Reads the name and the other labels of a key. -/
def readEntries? (key : String) : Option (String × List (String × String)) :=
  (run (.name []) key.toList).bind finish?

/-- The entries of a map for a name and other labels. An empty name is left out. -/
def entriesOf (name : String) (pairs : List (String × String)) : List (String × String) :=
  if name = "" then pairs else ("__name__", name) :: pairs

/-- Reads the labels of a key, each of which may stand there once. -/
def read? (key : String) : Option TextLabels :=
  (readEntries? key).bind fun (name, pairs) =>
    if h : ((entriesOf name pairs).map Prod.fst).Nodup then some ⟨entriesOf name pairs, h⟩ else none

@[simp]
lemma run_nil (place : Place) : run place [] = some place := rfl

lemma run_cons (place : Place) (c : Char) (rest : List Char) :
    run place (c :: rest) = (step place c).bind fun next => run next rest := by
  simp [run]

lemma run_append (place : Place) (a b : List Char) :
    run place (a ++ b) = (run place a).bind fun next => run next b := by
  simp [run]

/-! ### Reading what was written -/

/-- The characters of a name are kept. -/
lemma run_name (read chars : List Char) (h : ∀ c ∈ chars, c ≠ '{') :
    run (.name read) chars = some (.name (read ++ chars)) := by
  induction chars generalizing read with
  | nil => simp
  | cons c rest ih =>
    have hc : c ≠ '{' := h c (by simp)
    have hrest := ih (read ++ [c]) fun d hd => h d (by simp [hd])
    simpa [run_cons, step, hc] using hrest

/-- So are those of the name of a label. -/
lemma run_label (name : String) (pairs : List (String × String)) (read chars : List Char)
    (h : ∀ c ∈ chars, c ≠ '=' ∧ c ≠ '}') :
    run (.label name pairs read) chars = some (.label name pairs (read ++ chars)) := by
  induction chars generalizing read with
  | nil => simp
  | cons c rest ih =>
    have hc := h c (by simp)
    have hrest := ih (read ++ [c]) fun d hd => h d (by simp [hd])
    simpa [run_cons, step, hc.1, hc.2] using hrest

/-- Each escaped character is read as the character that was escaped. -/
lemma run_escapeChar (name : String) (pairs : List (String × String)) (label : String)
    (read : List Char) (c : Char) :
    run (.value name pairs label read) (Labels.escapeChar c) =
      some (.value name pairs label (read ++ [c])) := by
  unfold Labels.escapeChar
  split
  · next h => simp [run, step, unescape?, h]
  · split
    · next h => simp [run, step, unescape?, h]
    · split
      · next h => simp [run, step, unescape?, h]
      · next hbackslash hquote _ => simp [run, step, hbackslash, hquote]

/-- A value is read up to its closing quote, whatever stands in it. -/
lemma run_escapeValue (name : String) (pairs : List (String × String)) (label : String)
    (read chars : List Char) :
    run (.value name pairs label read) (chars.flatMap Labels.escapeChar) =
      some (.value name pairs label (read ++ chars)) := by
  induction chars generalizing read with
  | nil => simp
  | cons c rest ih =>
    rw [List.flatMap_cons, run_append, run_escapeChar, Option.bind_some, ih]
    simp

/-- A label is read as it was written. -/
lemma run_writePair (name : String) (pairs : List (String × String)) {pair : String × String}
    (h : isLabelName pair.1) :
    run (.label name pairs []) (Labels.writePair pair).toList =
      some (.quoted name (pairs ++ [pair])) := by
  have hlabel := run_label name pairs [] pair.1.toList fun c hc =>
    ⟨ne_of_isName h hc (by decide), ne_of_isName h hc (by decide)⟩
  have hchars : (Labels.writePair pair).toList =
      pair.1.toList ++ ('=' :: '"' :: (pair.2.toList.flatMap Labels.escapeChar ++ ['"'])) := by
    simp [Labels.writePair, Labels.escapeValue]
  rw [hchars, run_append, hlabel]
  simp [run_cons, run_append, run_escapeValue, step]

/-- Labels with commas between them are read as they were written. -/
theorem run_pairTexts (name : String) (before pairs : List (String × String)) (hne : pairs ≠ [])
    (h : ∀ pair ∈ pairs, isLabelName pair.1) :
    run (.label name before []) (String.intercalate ", " (pairs.map Labels.writePair)).toList =
      some (.quoted name (before ++ pairs)) := by
  induction pairs generalizing before with
  | nil => exact absurd rfl hne
  | cons pair rest ih =>
    have hpair := run_writePair name before (h pair (by simp))
    cases rest with
    | nil => simpa [String.toList_intercalate] using hpair
    | cons next rest =>
      have hrest := ih (before ++ [pair]) (by simp) fun p hp => h p (by simp [hp])
      rw [String.toList_intercalate] at hrest ⊢
      simp only [List.map_cons, List.intercalate_cons_cons, List.append_assoc] at hrest ⊢
      rw [run_append, hpair]
      simpa [run_cons, step] using hrest

/-- The name and the labels of a key are read as they were written. -/
theorem readEntries?_keyText {name : String} {pairs : List (String × String)}
    (hname : name = "" ∨ isMetricName name) (hpairs : ∀ pair ∈ pairs, isLabelName pair.1) :
    readEntries? (Labels.keyText name (pairs.map Labels.writePair)) = some (name, pairs) := by
  -- the name ends at the first brace
  have hbrace : ∀ c ∈ name.toList, c ≠ '{' := by
    rcases hname with rfl | hname
    · simp
    · exact fun c hc => ne_of_isName hname hc (by decide)
  have hread := run_name [] name.toList hbrace
  rw [readEntries?, Labels.keyText]
  by_cases hnil : pairs = []
  · subst hnil
    by_cases hempty : name = ""
    · subst hempty
      decide
    · simp [hempty, hread, finish?]
  · have hlabels := run_pairTexts name [] pairs hnil hpairs
    have hchars : (name ++ "\x7b" ++
        String.intercalate ", " (pairs.map Labels.writePair) ++ "\x7d").toList =
          name.toList ++
            '{' :: ((String.intercalate ", " (pairs.map Labels.writePair)).toList ++ ['}']) := by
      simp
    rw [if_neg (by simpa using hnil), hchars, run_append, hread, Option.bind_some, run_cons]
    simp only [step, if_true, Option.bind_some, List.nil_append, String.ofList_toList]
    rw [run_append, hlabels]
    rfl

end SeriesKey

end RuleFixtures
