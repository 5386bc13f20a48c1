import Mathlib.Tactic
import RuleFixtures.Labels

/-!
The keys of labels that are texts.

* `Labels.ofTexts` are the labels of a map of texts, `Labels.AreTexts` holds of such labels.
* `Labels.key_ofTexts`: their key is a text, the name followed by the sorted pairs.
* `Labels.escapeValue_eq_replaceChar`: escaping a value in one pass is escaping the backslashes,
  then the quotes, then the line breaks.
-/

namespace RuleFixtures

/-- Label names with their values, all of them texts. -/
abbrev TextLabels := OrderedMap String String

namespace Labels

/-! ### Labels that are texts -/

/-- The labels of a map of texts. -/
def ofTexts (labels : TextLabels) : Labels where
  entries := labels.entries.map fun entry => (.text entry.1, .text entry.2)
  nodup := by
    have hinjective : Function.Injective Json.text := fun _ _ h => Json.text.inj h
    have hnames := labels.nodup.map hinjective
    rw [List.map_map] at hnames ⊢
    exact hnames

/-- Are all names and values texts? -/
def AreTexts (labels : Labels) : Prop := ∃ texts : TextLabels, labels = ofTexts texts

lemma get?_ofTexts (labels : TextLabels) (name : String) :
    (ofTexts labels).get? (.text name) = (labels.get? name).map .text := by
  change lookupEntry (Json.text name)
      (labels.entries.map fun entry => (.text entry.1, .text entry.2)) =
    (lookupEntry name labels.entries).map Json.text
  induction labels.entries with
  | nil => rfl
  | cons entry rest ih =>
    obtain ⟨n, v⟩ := entry
    by_cases h : n = name
    · simp [lookupEntry, h]
    · simpa [lookupEntry, h] using ih

/-! ### The text of a key -/

/-- The name of a series; a series without one has the empty name. -/
def seriesName (labels : TextLabels) : String := (labels.get? "__name__").getD ""

/-- The labels other than the name. -/
def seriesPairs (labels : TextLabels) : List (String × String) :=
  labels.entries.filter fun entry => entry.1 ≠ "__name__"

/-- A label in a key. -/
def writePair (pair : String × String) : String :=
  pair.1 ++ "=\"" ++ escapeValue pair.2 ++ "\""

/-- The labels other than the name as they stand in the key. -/
def sortedPairs (labels : TextLabels) : List String :=
  ((seriesPairs labels).map writePair).mergeSort fun a b => decide (a ≤ b)

/-- The key of a name and of labels as they stand in it. -/
def keyText (name : String) (pairs : List String) : String :=
  if pairs = [] then if name = "" then "\x7b\x7d" else name
  else name ++ "\x7b" ++ String.intercalate ", " pairs ++ "\x7d"

lemma pairTexts_ofTexts (entries : List (String × String)) :
    pairTexts (entries.map fun entry => (.text entry.1, .text entry.2)) =
      .ok ((entries.filter fun entry => entry.1 ≠ "__name__").map writePair) := by
  induction entries with
  | nil => rfl
  | cons entry rest ih =>
    obtain ⟨name, value⟩ := entry
    by_cases h : name = "__name__"
    · simpa [pairTexts, nameLabel, h] using ih
    · simp only [List.map_cons, pairTexts, nameLabel, Json.text.injEq, h, if_false, ih]
      simp [h, pairText, writePair, Json.display]
      rfl

/-- The key of labels that are texts. -/
theorem key_ofTexts (labels : TextLabels) :
    (ofTexts labels).key = .ok (.text (keyText (seriesName labels) (sortedPairs labels))) := by
  have hpairs : pairTexts (ofTexts labels).entries = .ok ((seriesPairs labels).map writePair) :=
    pairTexts_ofTexts labels.entries
  have hname : ((ofTexts labels).get? nameLabel).getD (.text "") = .text (seriesName labels) := by
    rw [nameLabel, get?_ofTexts, seriesName]
    cases labels.get? "__name__" <;> rfl
  have hkey : (ofTexts labels).key =
      (if (sortedPairs labels).isEmpty then
        .ok (if (Json.text (seriesName labels)).isTruthy then .text (seriesName labels)
          else .text "\x7b\x7d")
      else
        .ok (.text (seriesName labels ++ "\x7b" ++ String.intercalate ", " (sortedPairs labels) ++
          "\x7d"))) := by
    rw [key, hname, hpairs]
    rfl
  rw [hkey]
  cases sortedPairs labels with
  | nil => by_cases h : seriesName labels = "" <;> simp [keyText, h, Json.isTruthy]
  | cons pair rest => rfl

/-- The key of a series is a text if its labels are. -/
lemma AreTexts.exists_key {labels : Labels} (h : labels.AreTexts) :
    ∃ text, labels.key = .ok (.text text) := by
  obtain ⟨texts, rfl⟩ := h
  exact ⟨_, key_ofTexts texts⟩

/-! ### Escaping in several passes -/

/-- Every occurrence of a character replaced by a text. -/
def replaceChar (c : Char) (text : List Char) (s : List Char) : List Char :=
  s.flatMap fun d => if d = c then text else [d]

/-- The backslashes are escaped first, so those of the other escapes stay single. -/
lemma escapeValue_eq_replaceChar (value : String) :
    (escapeValue value).toList =
      replaceChar '\n' ['\\', 'n'] (replaceChar '"' ['\\', '"']
        (replaceChar '\\' ['\\', '\\'] value.toList)) := by
  rw [escapeValue, String.toList_ofList, replaceChar, replaceChar, replaceChar, List.flatMap_assoc,
    List.flatMap_assoc]
  refine List.flatMap_congr fun c _ => ?_
  unfold escapeChar
  split
  · simp_all
  · split
    · simp_all
    · split <;> simp_all

end Labels

end RuleFixtures
