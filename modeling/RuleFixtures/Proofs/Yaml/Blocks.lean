import RuleFixtures.Proofs.Text.Split
import RuleFixtures.Proofs.Yaml.Scalars
import RuleFixtures.Proofs.Yaml.Texts

/-!
The texts of blocks, line by line.

The text of a block ends with its last line, and what follows starts further left, or is the next
member of the object that a list stands in.

* `IsWritable` says which documents are meant: lists and objects of texts and numbers, with words
  as names.
* `Ends`, `EndsItems` say what may follow a block and a list.
* `IsLeaf`: documents on one line, which are read to its end and taken neither for an item nor for
  a key.
* `toList_members_cons`, `toList_items_cons` take the first member and the first item off.
-/

namespace RuleFixtures.Yaml

variable {asBreak : Char → Char}

/-- A word that is written plain and stands in front of a colon. -/
structure IsKey (name : String) : Prop where
  plain : Scalar.isPlain name.toList = true
  letters : ∀ c ∈ name.toList, isKeyChar c = true
  length_le : name.toList.length ≤ 128

/-- The documents of lists, objects, texts and numbers, with words as names of members. -/
inductive IsWritable : Json → Prop
  | text (s : String) : IsWritable (.text s)
  | float (x : Binary64) : IsWritable (.float x)
  | list {items : List Json} (hitems : ∀ item ∈ items, IsWritable item) : IsWritable (.list items)
  | object {members : List (String × Json)} (hnames : ∀ entry ∈ members, IsKey entry.1)
    (hnodup : (members.map Prod.fst).Nodup) (hvalues : ∀ entry ∈ members, IsWritable entry.2) :
    IsWritable (.object members)

/-! ### Lines -/

lemma toList_blanks (indent : ℕ) : (blanks indent).toList = List.replicate indent ' ' := by
  rw [blanks, Text.toList_pushn, String.toList_empty, List.nil_append]

lemma splitIndent_append (indent : ℕ) {line : List Char} (hline : line.head? ≠ some ' ') :
    splitIndent (List.replicate indent ' ' ++ line) = (indent, line) := by
  have hblanks : ∀ c ∈ List.replicate indent ' ', decide (c = ' ') = true := fun c hc =>
    decide_eq_true (List.eq_of_mem_replicate hc)
  have hstop : line.takeWhile (· = ' ') = [] ∧ line.dropWhile (· = ' ') = line := by
    cases line with
    | nil => exact ⟨rfl, rfl⟩
    | cons c line =>
      have hc : c ≠ ' ' := by simpa using hline
      simp [hc]
  rw [splitIndent, List.takeWhile_append_of_pos hblanks, List.dropWhile_append_of_pos hblanks,
    hstop.1, hstop.2, List.append_nil, List.length_replicate]

/-- What follows a block at an indentation starts further left. -/
def Ends (indent : ℕ) (rest : List Char) : Prop := rest = [] ∨ (splitIndent rest).1 < indent

/-- What follows a list starts further left, or is no item. -/
def EndsItems (indent : ℕ) (rest : List Char) : Prop :=
  Ends indent rest ∨ (splitIndent rest).1 = indent ∧ startsItem (splitIndent rest).2 = false

lemma EndsItems.ends {indent column : ℕ} {rest : List Char} (h : EndsItems indent rest)
    (hlt : indent < column) : Ends column rest := by
  rcases h with (rfl | hleft) | ⟨hsame, -⟩
  · exact .inl rfl
  · exact .inr (lt_trans hleft hlt)
  · exact .inr (by omega)

/-! ### Keys -/

lemma IsKey.exists_cons {name : String} (h : IsKey name) :
    ∃ c rest, name.toList = c :: rest ∧ isKeyChar c = true := by
  have hplain := h.plain
  have hletters := h.letters
  cases hname : name.toList with
  | nil =>
    rw [hname] at hplain
    exact absurd hplain (by decide)
  | cons c rest =>
    rw [hname] at hletters
    exact ⟨c, rest, rfl, hletters c List.mem_cons_self⟩

lemma write_of_isKey {name : String} (h : IsKey name) (indent : ℕ) :
    Scalar.write indent name = name := by
  rw [Scalar.write, Scalar.writeList, if_pos h.plain, String.ofList_toList]

/-- A key is read up to its colon. -/
lemma readKey?_append {name : String} (h : IsKey name) {c : Char} (hc : c = ' ' ∨ c = '\n')
    (rest : List Char) : readKey? (name.toList ++ ':' :: c :: rest) = some (name, c :: rest) := by
  have hword : (name.toList ++ ':' :: c :: rest).takeWhile isKeyChar = name.toList := by
    rw [List.takeWhile_append_of_pos h.letters, List.takeWhile_cons_of_neg (by decide),
      List.append_nil]
  have htext : Resolve.isText name.toList = true := Scalar.isText_of_isPlain h.plain
  rw [readKey?, hword, List.drop_left]
  simp [hc, h.length_le, htext]

/-! ### Values on one line -/

/-- The documents that take one line. -/
inductive IsLeaf : Json → Prop
  | text (s : String) : IsLeaf (.text s)
  | float (x : Binary64) : IsLeaf (.float x)
  | emptyList : IsLeaf (.list [])
  | emptyObject : IsLeaf (.object [])

namespace IsLeaf

variable {value : Json} {rest : List Char}

lemma read?_scalarText (h : IsLeaf value) {indent : ℕ} (hindent : 0 < indent) :
    Scalar.read? asBreak ((scalarText indent value).toList ++ '\n' :: rest) =
      some (value.mapTexts (readBack asBreak), rest) := by
  cases h with
  | text s => exact Scalar.read?_write hindent s
  | float x => exact Scalar.read?_floatText x
  | emptyList => simp [scalarText, Scalar.read?, Scalar.endLine?, Json.mapTexts, Json.mapTextsAll]
  | emptyObject =>
    simp [scalarText, Scalar.read?, Scalar.endLine?, Json.mapTexts, Json.mapTextsMembers]

lemma isScalarLine (h : IsLeaf value) (indent : ℕ) (rest : List Char) :
    Scalar.IsScalarLine ((scalarText indent value).toList ++ '\n' :: rest) := by
  cases h with
  | text s => exact Scalar.isScalarLine_write indent s
  | float x => exact Scalar.isScalarLine_floatText x
  | emptyList =>
    rw [scalarText, String.toList_ofList (l := ['[', ']'])]
    exact Scalar.isScalarLine_cons (by decide)
  | emptyObject =>
    rw [scalarText, String.toList_ofList (l := ['\x7b', '\x7d'])]
    exact Scalar.isScalarLine_cons (by decide)

lemma toList_memberValue (h : IsLeaf value) (indent : ℕ) :
    (memberValue indent value).toList =
      ' ' :: (scalarText (indent + 2) value).toList ++ ['\n'] := by
  cases h <;> simp [memberValue]

lemma toList_itemValue (h : IsLeaf value) (indent : ℕ) :
    (itemValue indent value).toList = (scalarText (indent + 2) value).toList ++ ['\n'] := by
  cases h <;> simp [itemValue]

end IsLeaf

namespace IsWritable

lemma of_list_cons {item : Json} {rest : List Json} (h : IsWritable (.list (item :: rest))) :
    IsWritable item ∧ IsWritable (.list rest) := by
  cases h with
  | list hitems =>
    exact ⟨hitems item List.mem_cons_self,
      .list fun other hother => hitems other (List.mem_cons_of_mem _ hother)⟩

lemma of_object_cons {name : String} {value : Json} {rest : List (String × Json)}
    (h : IsWritable (.object ((name, value) :: rest))) :
    IsKey name ∧ IsWritable value ∧ name ∉ rest.map Prod.fst ∧ IsWritable (.object rest) := by
  cases h with
  | object hnames hnodup hvalues =>
    rw [List.map_cons, List.nodup_cons] at hnodup
    exact ⟨hnames (name, value) List.mem_cons_self, hvalues (name, value) List.mem_cons_self,
      hnodup.1, .object (fun entry hentry => hnames entry (List.mem_cons_of_mem _ hentry)) hnodup.2
        fun entry hentry => hvalues entry (List.mem_cons_of_mem _ hentry)⟩

/-- A document that is written takes one line, or is a list or an object with content. -/
lemma cases_blocks {value : Json} (h : IsWritable value) :
    IsLeaf value ∨ (∃ item rest, value = .list (item :: rest)) ∨
      ∃ entry rest, value = .object (entry :: rest) := by
  cases h with
  | text s => exact .inl (.text s)
  | float x => exact .inl (.float x)
  | @list items _ => cases items with
    | nil => exact .inl .emptyList
    | cons item rest => exact .inr (.inl ⟨item, rest, rfl⟩)
  | @object members _ _ _ => cases members with
    | nil => exact .inl .emptyObject
    | cons entry rest => exact .inr (.inr ⟨entry, rest, rfl⟩)

end IsWritable

/-! ### The texts of blocks -/

lemma memberValue_list_cons (indent : ℕ) (item : Json) (rest : List Json) :
    (memberValue indent (.list (item :: rest))).toList =
      '\n' :: (List.replicate indent ' ' ++ (items indent (item :: rest)).toList) := by
  rw [memberValue, String.toList_append, String.toList_append, toList_blanks]
  rfl

lemma memberValue_object_cons (indent : ℕ) (entry : String × Json) (rest : List (String × Json)) :
    (memberValue indent (.object (entry :: rest))).toList =
      '\n' :: (List.replicate (indent + 2) ' ' ++
        (members (indent + 2) (entry :: rest)).toList) := by
  rw [memberValue, String.toList_append, String.toList_append, toList_blanks]
  rfl

/-- What follows a colon. -/
lemma exists_cons_memberValue {value : Json} (h : IsWritable value) (indent : ℕ) :
    ∃ c text, (memberValue indent value).toList = c :: text ∧ (c = ' ' ∨ c = '\n') := by
  rcases h.cases_blocks with hleaf | ⟨item, rest, rfl⟩ | ⟨entry, rest, rfl⟩
  · exact ⟨_, _, hleaf.toList_memberValue indent, .inl rfl⟩
  · exact ⟨_, _, memberValue_list_cons indent item rest, .inr rfl⟩
  · exact ⟨_, _, memberValue_object_cons indent entry rest, .inr rfl⟩

/-- What follows the first member of an object. -/
def nextMembers (indent : ℕ) : List (String × Json) → List Char
  | [] => []
  | entry :: rest => List.replicate indent ' ' ++ (members indent (entry :: rest)).toList

lemma members_singleton (indent : ℕ) (name : String) (value : Json) :
    members indent [(name, value)] =
      Scalar.write (indent + 2) name ++ ":" ++ memberValue indent value := by
  rw [members.eq_def]

lemma members_cons_cons (indent : ℕ) (name : String) (value : Json) (entry : String × Json)
    (rest : List (String × Json)) :
    members indent ((name, value) :: entry :: rest) =
      Scalar.write (indent + 2) name ++ ":" ++ memberValue indent value ++ blanks indent ++
        members indent (entry :: rest) := by
  rw [members.eq_def]

lemma toList_members_cons {name : String} (hname : IsKey name) (indent : ℕ) (value : Json)
    (rest : List (String × Json)) :
    (members indent ((name, value) :: rest)).toList =
      name.toList ++ ':' :: ((memberValue indent value).toList ++ nextMembers indent rest) := by
  cases rest with
  | nil =>
    rw [members_singleton, write_of_isKey hname]
    simp [nextMembers]
  | cons entry rest =>
    rw [members_cons_cons, write_of_isKey hname]
    simp [nextMembers, toList_blanks]

/-- What follows the first item of a list. -/
def nextItems (indent : ℕ) : List Json → List Char
  | [] => []
  | item :: rest => List.replicate indent ' ' ++ (items indent (item :: rest)).toList

lemma toList_items_cons (indent : ℕ) (item : Json) (rest : List Json) :
    (items indent (item :: rest)).toList =
      '-' :: ' ' :: ((itemValue indent item).toList ++ nextItems indent rest) := by
  cases rest with
  | nil =>
    rw [items.eq_def]
    simp [nextItems]
  | cons entry rest =>
    rw [items.eq_def]
    simp [nextItems, toList_blanks]

end RuleFixtures.Yaml
