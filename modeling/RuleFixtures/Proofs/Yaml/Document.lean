import RuleFixtures.Proofs.Yaml.Blocks

/-!
Documents are read back.

The induction is on the fuel: a text of a block needs no more than its length, and each line takes
at least one character off it.

* `ReadsMembers`, `ReadsMemberValue`, `ReadsItems` and `ReadsItemValue` say for one fuel that blocks
  are read up to their ends; `reads_all` proves them together.
* `readBy?_document`: an object is read, each of its texts as what it reads as.
-/

namespace RuleFixtures

namespace Yaml

variable {asBreak : Char → Char} {fuel indent : ℕ} {s rest : List Char}

/-! ### Where blocks end -/

/-- The first line of an object. -/
lemma exists_cons_members {entry : String × Json} (h : IsKey entry.1)
    (more : List (String × Json)) (indent : ℕ) :
    ∃ c text, (members indent (entry :: more)).toList = c :: text ∧ isKeyChar c = true := by
  obtain ⟨c, word, hname, hc⟩ := h.exists_cons
  rw [toList_members_cons h, hname]
  exact ⟨c, _, rfl, hc⟩

lemma startsItem_of_isKeyChar {c : Char} (hc : isKeyChar c = true) (text : List Char) :
    startsItem (c :: text) = false := by
  rw [← Bool.not_eq_true, Scalar.startsItem_iff]
  rintro ⟨tail, htail⟩
  cases htail
  exact absurd hc (by decide)

lemma splitIndent_members {entry : String × Json} {more : List (String × Json)} (h : IsKey entry.1)
    (indent : ℕ) :
    splitIndent (List.replicate indent ' ' ++ ((members indent (entry :: more)).toList ++ rest)) =
      (indent, (members indent (entry :: more)).toList ++ rest) := by
  obtain ⟨c, text, htext, hc⟩ := exists_cons_members h more indent
  refine splitIndent_append indent ?_
  rw [htext]
  rintro heq
  cases heq
  exact absurd hc (by decide)

lemma startsItem_members {entry : String × Json} {more : List (String × Json)} (h : IsKey entry.1) :
    startsItem ((members indent (entry :: more)).toList ++ rest) = false := by
  obtain ⟨c, text, htext, hc⟩ := exists_cons_members h more indent
  rw [htext]
  exact startsItem_of_isKeyChar hc _

lemma splitIndent_items (indent : ℕ) (item : Json) (more : List Json) :
    splitIndent (List.replicate indent ' ' ++ ((items indent (item :: more)).toList ++ rest)) =
      (indent, (items indent (item :: more)).toList ++ rest) := by
  refine splitIndent_append indent ?_
  simp [toList_items_cons]

lemma startsItem_items (indent : ℕ) (item : Json) (more : List Json) :
    startsItem ((items indent (item :: more)).toList ++ rest) = true := by
  rw [toList_items_cons]
  rfl

/-- The value of a member ends where the next member starts. -/
lemma endsItems_nextMembers {more : List (String × Json)} (hmore : IsWritable (.object more))
    (hrest : Ends indent rest) : EndsItems indent (nextMembers indent more ++ rest) := by
  cases more with
  | nil => exact .inl hrest
  | cons entry more =>
    have hkey : IsKey entry.1 := hmore.of_object_cons.1
    rw [nextMembers, List.append_assoc, EndsItems, splitIndent_members hkey]
    exact .inr ⟨rfl, startsItem_members hkey⟩

/-- An item ends where the next item starts. -/
lemma ends_nextItems (more : List Json) (hrest : EndsItems indent rest) :
    Ends (indent + 2) (nextItems indent more ++ rest) := by
  cases more with
  | nil => exact hrest.ends (by omega)
  | cons item more =>
    rw [nextItems, List.append_assoc, Ends, splitIndent_items]
    exact .inr (by omega)

/-! ### One step of the reader -/

/-- The key of a member is read up to its colon. -/
lemma readKey?_member {name : String} (hname : IsKey name) {value : Json}
    (hvalue : IsWritable value) (indent : ℕ) (rest : List Char) :
    readKey? (name.toList ++ ':' :: ((memberValue indent value).toList ++ rest)) =
      some (name, (memberValue indent value).toList ++ rest) := by
  obtain ⟨c, text, htext, hc⟩ := exists_cons_memberValue hvalue indent
  rw [htext, List.cons_append, readKey?_append hname hc]

lemma readMembers?_step {name : String} {value : Json} {t : List Char}
    (hkey : readKey? s = some (name, t))
    (hvalue : readMemberValue? asBreak fuel indent t = some (value, rest))
    (done : List (String × Json)) :
    readMembers? asBreak (fuel + 1) indent done s =
      if rest = [] ∨ (splitIndent rest).1 < indent then
        some (.object (Json.setMember name value done), rest)
      else if (splitIndent rest).1 = indent then
        readMembers? asBreak fuel indent (Json.setMember name value done) (splitIndent rest).2
      else none := by
  rw [readMembers?, hkey]
  simp only [Option.bind_eq_bind, Option.bind_some, hvalue]

lemma readItems?_step {item : Json}
    (hitem : readItemValue? asBreak fuel (indent + 2) s = some (item, rest)) (done : List Json) :
    readItems? asBreak (fuel + 1) indent done ('-' :: ' ' :: s) =
      if rest = [] ∨ (splitIndent rest).1 < indent then some (.list (item :: done).reverse, rest)
      else if (splitIndent rest).1 = indent then
        if startsItem (splitIndent rest).2 then
          readItems? asBreak fuel indent (item :: done) (splitIndent rest).2
        else some (.list (item :: done).reverse, rest)
      else none := by
  rw [readItems?]
  simp only [Option.bind_eq_bind, Option.bind_some, hitem]

/-- The list ends where the next line is no item of it. -/
lemma readItems?_end {item : Json}
    (hitem : readItemValue? asBreak fuel (indent + 2) s = some (item, rest))
    (hrest : EndsItems indent rest) (done : List Json) :
    readItems? asBreak (fuel + 1) indent done ('-' :: ' ' :: s) =
      some (.list (item :: done).reverse, rest) := by
  rw [readItems?_step hitem]
  rcases hrest with hends | ⟨hsame, hnot⟩
  · rw [Ends] at hends
    rw [if_pos hends]
  · rw [if_pos hsame, hnot, if_neg Bool.false_ne_true, ite_self]

/-! ### Blocks are read up to their ends -/

/-- With this fuel, members that are no longer are read up to the end of their block. -/
def ReadsMembers (asBreak : Char → Char) (fuel : ℕ) : Prop :=
  ∀ (indent : ℕ) (entry : String × Json) (more done : List (String × Json)) (rest : List Char),
    IsWritable (.object (entry :: more)) →
    (∀ name ∈ (entry :: more).map Prod.fst, name ∉ done.map Prod.fst) → Ends indent rest →
    (members indent (entry :: more)).toList.length ≤ fuel →
    readMembers? asBreak fuel indent done ((members indent (entry :: more)).toList ++ rest) =
      some (.object (done ++ Json.mapTextsMembers (readBack asBreak) (entry :: more)), rest)

/-- With this fuel, the value of a member is read that is no longer. -/
def ReadsMemberValue (asBreak : Char → Char) (fuel : ℕ) : Prop :=
  ∀ (indent : ℕ) (value : Json) (rest : List Char), IsWritable value → EndsItems indent rest →
    (memberValue indent value).toList.length ≤ fuel →
    readMemberValue? asBreak fuel indent ((memberValue indent value).toList ++ rest) =
      some (value.mapTexts (readBack asBreak), rest)

/-- With this fuel, items that are no longer are read up to the end of their list. -/
def ReadsItems (asBreak : Char → Char) (fuel : ℕ) : Prop :=
  ∀ (indent : ℕ) (item : Json) (more done : List Json) (rest : List Char),
    IsWritable (.list (item :: more)) → EndsItems indent rest →
    (items indent (item :: more)).toList.length ≤ fuel →
    readItems? asBreak fuel indent done ((items indent (item :: more)).toList ++ rest) =
      some (.list (done.reverse ++ Json.mapTextsAll (readBack asBreak) (item :: more)), rest)

/-- With this fuel, an item is read that is shorter. -/
def ReadsItemValue (asBreak : Char → Char) (fuel : ℕ) : Prop :=
  ∀ (indent : ℕ) (item : Json) (rest : List Char), IsWritable item → Ends (indent + 2) rest →
    (itemValue indent item).toList.length < fuel →
    readItemValue? asBreak fuel (indent + 2) ((itemValue indent item).toList ++ rest) =
      some (item.mapTexts (readBack asBreak), rest)

lemma ReadsMembers.succ (hvalues : ReadsMemberValue asBreak fuel)
    (hmembers : ReadsMembers asBreak fuel) : ReadsMembers asBreak (fuel + 1) := by
  rintro indent ⟨name, value⟩ more done rest hwritable hdone hrest hfuel
  obtain ⟨hname, hvalue, hnew, hmore⟩ := hwritable.of_object_cons
  rw [List.map_cons, List.forall_mem_cons] at hdone
  rw [toList_members_cons hname] at hfuel ⊢
  simp only [List.length_append, List.length_cons] at hfuel
  have hread := hvalues indent value (nextMembers indent more ++ rest) hvalue
    (endsItems_nextMembers hmore hrest) (by omega)
  rw [List.append_assoc, List.cons_append, List.append_assoc,
    readMembers?_step (readKey?_member hname hvalue indent _) hread,
    Json.setMember_of_notMem hdone.1, Json.mapTextsMembers]
  cases more with
  | nil =>
    rw [Ends] at hrest
    rw [nextMembers, List.nil_append, if_pos hrest, Json.mapTextsMembers]
  | cons next more =>
    have hkey : IsKey next.1 := hmore.of_object_cons.1
    obtain ⟨c, text, htext, -⟩ := exists_cons_members hkey more indent
    -- the name that is done now is none of those to come
    have hdone' : ∀ other ∈ (next :: more).map Prod.fst,
        other ∉ (done ++ [(name, value.mapTexts (readBack asBreak))]).map Prod.fst := by
      intro other hother
      rw [List.map_append, List.mem_append, not_or]
      refine ⟨hdone.2 other hother, fun hsame => hnew ?_⟩
      rwa [List.mem_singleton.1 hsame] at hother
    rw [nextMembers] at hfuel ⊢
    rw [List.append_assoc, splitIndent_members hkey, if_neg (by simp [htext]), if_pos rfl,
      hmembers indent next more _ rest hmore hdone' hrest
        (by rw [List.length_append] at hfuel; omega), List.append_assoc, List.singleton_append]

lemma ReadsMemberValue.succ (hmembers : ReadsMembers asBreak fuel)
    (hitems : ReadsItems asBreak fuel) : ReadsMemberValue asBreak (fuel + 1) := by
  intro indent value rest hvalue hrest hfuel
  rcases hvalue.cases_blocks with hleaf | ⟨item, more, rfl⟩ | ⟨entry, more, rfl⟩
  · rw [hleaf.toList_memberValue, List.append_assoc, List.cons_append, readMemberValue?]
    exact hleaf.read?_scalarText (by omega)
  · rw [memberValue_list_cons] at hfuel ⊢
    simp only [List.length_append, List.length_cons] at hfuel
    rw [List.cons_append, List.append_assoc, readMemberValue?, splitIndent_items]
    simp only [startsItem_items, if_true, le_refl]
    rw [hitems indent item more [] rest hvalue hrest (by omega), Json.mapTexts]
    rfl
  · have hkey : IsKey entry.1 := hvalue.of_object_cons.1
    rw [memberValue_object_cons] at hfuel ⊢
    simp only [List.length_append, List.length_cons] at hfuel
    rw [List.cons_append, List.append_assoc, readMemberValue?, splitIndent_members hkey]
    simp only [startsItem_members hkey, Bool.false_eq_true, if_false]
    rw [if_pos (by omega), hmembers (indent + 2) entry more [] rest hvalue (by simp)
      (hrest.ends (by omega)) (by omega), Json.mapTexts]
    rfl

lemma ReadsItems.succ (hvalues : ReadsItemValue asBreak fuel) (hitems : ReadsItems asBreak fuel) :
    ReadsItems asBreak (fuel + 1) := by
  intro indent item more done rest hwritable hrest hfuel
  obtain ⟨hitem, hmore⟩ := hwritable.of_list_cons
  rw [toList_items_cons] at hfuel ⊢
  simp only [List.length_append, List.length_cons] at hfuel
  have hread := hvalues indent item (nextItems indent more ++ rest) hitem
    (ends_nextItems more hrest) (by omega)
  rw [List.cons_append, List.cons_append, List.append_assoc, Json.mapTextsAll]
  cases more with
  | nil =>
    rw [readItems?_end hread hrest, Json.mapTextsAll, List.reverse_cons]
    rfl
  | cons next more =>
    rw [readItems?_step hread]
    rw [nextItems] at hfuel ⊢
    rw [List.append_assoc, splitIndent_items, if_neg (by simp [toList_items_cons]), if_pos rfl,
      if_pos (startsItem_items indent next more),
      hitems indent next more _ rest hmore hrest (by rw [List.length_append] at hfuel; omega),
      List.reverse_cons, List.append_assoc, List.singleton_append]

lemma ReadsItemValue.succ (hmembers : ReadsMembers asBreak fuel)
    (hitems : ReadsItems asBreak fuel) : ReadsItemValue asBreak (fuel + 1) := by
  intro indent item rest hitem hrest hfuel
  -- an item is a line of its own, a list in the list, or an object in it
  rcases hitem.cases_blocks with hleaf | ⟨first, more, rfl⟩ | ⟨entry, more, rfl⟩
  · obtain ⟨hstart, hkey⟩ := hleaf.isScalarLine (indent + 2) rest
    rw [hleaf.toList_itemValue, List.append_assoc, List.singleton_append, readItemValue?, hstart,
      hkey]
    exact hleaf.read?_scalarText (by omega)
  · rw [itemValue] at hfuel ⊢
    rw [readItemValue?, if_pos (startsItem_items _ first more),
      hitems (indent + 2) first more [] rest hitem (.inl hrest) (by omega), Json.mapTexts]
    rfl
  · obtain ⟨name, value⟩ := entry
    obtain ⟨hname, hvalue, -⟩ := hitem.of_object_cons
    have hkey :
        (readKey? ((members (indent + 2) ((name, value) :: more)).toList ++ rest)).isSome := by
      rw [toList_members_cons hname, List.append_assoc, List.cons_append, List.append_assoc,
        readKey?_member hname hvalue]
      rfl
    rw [itemValue] at hfuel ⊢
    rw [readItemValue?, startsItem_members hname, if_neg Bool.false_ne_true, if_pos hkey,
      hmembers (indent + 2) (name, value) more [] rest hitem (by simp) hrest (by omega),
      Json.mapTexts]
    rfl

lemma reads_all (asBreak : Char → Char) (fuel : ℕ) :
    ReadsMembers asBreak fuel ∧ ReadsMemberValue asBreak fuel ∧ ReadsItems asBreak fuel ∧
      ReadsItemValue asBreak fuel := by
  induction fuel with
  | zero =>
    -- no block has an empty text
    refine ⟨?_, ?_, ?_, ?_⟩
    · rintro indent ⟨name, value⟩ more done rest hwritable - - hfuel
      rw [toList_members_cons hwritable.of_object_cons.1] at hfuel
      simp at hfuel
    · rintro indent value rest hvalue - hfuel
      obtain ⟨c, text, htext, -⟩ := exists_cons_memberValue hvalue indent
      simp [htext] at hfuel
    · rintro indent item more done rest - - hfuel
      simp [toList_items_cons] at hfuel
    · rintro indent item rest - - hfuel
      exact absurd hfuel (Nat.not_lt_zero _)
  | succ fuel ih =>
    obtain ⟨hmembers, hvalues, hitems, hitemValues⟩ := ih
    exact ⟨hmembers.succ hvalues, .succ hmembers hitems, hitems.succ hitemValues,
      .succ hmembers hitems⟩

/-! ### Documents -/

/-- An object is read, each of its texts as what it reads as. -/
theorem readBy?_document {entry : String × Json} {more : List (String × Json)}
    (h : IsWritable (.object (entry :: more))) :
    readBy? asBreak (document (.object (entry :: more))) =
      some ((Json.object (entry :: more)).mapTexts (readBack asBreak)) := by
  have hread := (reads_all asBreak _).1 0 entry more [] [] h (by simp) (.inl rfl)
    (le_refl _)
  rw [List.append_nil, List.nil_append] at hread
  rw [readBy?, document]
  simp only [hread, Option.bind_eq_bind, Option.bind_some, if_true, Json.mapTexts]

end Yaml

end RuleFixtures
