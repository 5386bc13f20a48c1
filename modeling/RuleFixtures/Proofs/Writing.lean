import Mathlib.Tactic
import RuleFixtures.Files

/-!
What becomes of the files when a content is written or removed.

* `Files.contents_makeDirectories`: directories that are made leave all texts as they are.
* `Files.follow_of_kept`: a path leads where it did if the directories on its way are still there.
* `Files.Saved` says that a text was written: its path leads to the location whose content it is,
  and all other contents are as before.
* `Files.saved_of_write`: a text that is written behind its directories is saved.
* `Files.Holds` says which content stands where a path leads, if any. `Files.Holds.writeBytes` and
  `Files.Holds.erase` say how that changes, `Files.Holds.read_eq` what is read.
-/

namespace RuleFixtures

namespace OrderedMap

variable {α β : Type} [DecidableEq α] (m : OrderedMap α β) {key other : α} (value : β)

lemma mem_keys_insert_iff : other ∈ (m.insert key value).keys ↔ other = key ∨ other ∈ m.keys := by
  rw [insert, keys_alter]
  split
  · next hkey =>
    constructor
    · exact .inr
    · rintro (rfl | h)
      exacts [hkey, h]
  · rw [List.mem_append, List.mem_singleton, or_comm]

lemma contains_insert_of_ne (h : other ≠ key) :
    (m.insert key value).contains other = m.contains other := by
  rw [contains, contains, insert, get?_alter_of_ne m h]

lemma mem_keys_erase_iff : other ∈ (m.erase key).keys ↔ other ≠ key ∧ other ∈ m.keys := by
  simp only [keys, erase, List.mem_map, List.mem_filter, decide_eq_true_eq]
  constructor
  · rintro ⟨entry, ⟨hentry, hne⟩, rfl⟩
    exact ⟨hne, entry, hentry, rfl⟩
  · rintro ⟨hne, entry, hentry, rfl⟩
    exact ⟨entry, ⟨hentry, hne⟩, rfl⟩

lemma get?_erase_self : (m.erase key).get? key = none :=
  (get?_eq_none_iff _ key).2 fun hmem => ((m.mem_keys_erase_iff).1 hmem).1 rfl

end OrderedMap

namespace Files

variable {files made : Files} {path location : FilePath}

/-! ### Making directories -/

lemma contents_makeDirectory (h : files.makeDirectory path = .ok made) :
    made.contents = files.contents := by
  rw [makeDirectory] at h
  cases hlocation : files.locate path with
  | error fault =>
    rw [hlocation] at h
    cases h
  | ok location =>
    rw [hlocation] at h
    dsimp only [bind, Except.bind] at h
    split at h
    · cases h
      rfl
    · split at h
      · cases h
      · cases h
        rfl

lemma contents_makeInTurn {paths : List FilePath} (h : files.makeInTurn paths = .ok made) :
    made.contents = files.contents := by
  induction paths generalizing files with
  | nil =>
    cases h
    rfl
  | cons path rest ih =>
    rw [makeInTurn] at h
    cases hfirst : files.makeDirectory path with
    | error fault =>
      rw [hfirst] at h
      cases h
    | ok next =>
      rw [hfirst] at h
      exact (ih h).trans (contents_makeDirectory hfirst)

/-- Directories that are made leave the texts of all files as they are. -/
lemma contents_makeDirectories (h : files.makeDirectories path = .ok made) :
    made.contents = files.contents := by
  rw [makeDirectories] at h
  split at h
  · next hmade =>
    cases h
    exact contents_makeDirectory hmade
  · exact contents_makeInTurn h
  · cases h

/-! ### Paths -/

/-- A path leads where it did if the directories on its way are still there. -/
lemma follow_of_kept {next : Files} {start : FilePath} {names : List String}
    (hkept : ∀ above, files.isFile above = false → files.isDirectory above = true →
      next.isFile above = false ∧ next.isDirectory above = true)
    (h : files.follow path start names = .ok location) :
    next.follow path start names = .ok location := by
  induction names generalizing start with
  | nil => exact h
  | cons name rest ih =>
    rw [follow] at h ⊢
    cases hfile : files.isFile start with
    | true => simp [hfile] at h
    | false =>
      cases hdirectory : files.isDirectory start with
      | false => simp [hfile, hdirectory] at h
      | true =>
        obtain ⟨hfile', hdirectory'⟩ := hkept start hfile hdirectory
        rw [hfile, hdirectory] at h
        rw [hfile', hdirectory']
        simp only [Bool.not_true, Bool.false_eq_true, if_false] at h ⊢
        split at h
        · cases h
        · next hshort => rw [if_neg hshort, ih h]

/-! ### Writing a content -/

/-- The files with a content at a location. -/
def put (files : Files) (location : FilePath) (content : List UInt8) : Files :=
  { files with contents := files.contents.insert location content }

/-- A content is written where its path leads, unless there is a directory. -/
lemma writeBytes_eq_ok_iff {text : String} {content : List UInt8} {written : Files} :
    files.writeBytes text content = .ok written ↔
      ∃ location, files.locate (FilePath.ofString text) = .ok location ∧
        files.isDirectory location = false ∧ written = files.put location content := by
  rw [writeBytes]
  cases files.locate (FilePath.ofString text) with
  | error fault => simp [bind, Except.bind]
  | ok location =>
    dsimp only [bind, Except.bind]
    constructor
    · intro h
      split at h
      · cases h
      · next hfree =>
        cases h
        exact ⟨location, rfl, Bool.eq_false_iff.2 hfree, rfl⟩
    · rintro ⟨_, ⟨⟩, hfree, rfl⟩
      rw [if_neg (Bool.eq_false_iff.1 hfree)]
      rfl

section Put

variable (content : List UInt8)

lemma isDirectory_put {other : FilePath} (h : files.isDirectory other = true) :
    (files.put location content).isDirectory other = true := by
  simp only [isDirectory, put, Bool.or_eq_true, List.any_eq_true] at h ⊢
  refine h.imp_right fun ⟨path, hpath, hbelow⟩ => ⟨path, ?_, hbelow⟩
  exact (OrderedMap.mem_keys_insert_iff _ _).2 (.inr hpath)

/-- A file is no directory, unless it was one before. -/
lemma isDirectory_put_self (h : files.isDirectory location = false) :
    (files.put location content).isDirectory location = false := by
  rw [Bool.eq_false_iff] at h ⊢
  intro hput
  refine h ?_
  simp only [isDirectory, put, Bool.or_eq_true, List.any_eq_true] at hput ⊢
  refine hput.imp_right fun ⟨path, hpath, hbelow⟩ => ?_
  obtain rfl | hpath := (OrderedMap.mem_keys_insert_iff _ _).1 hpath
  · simp at hbelow
  · exact ⟨path, hpath, hbelow⟩

/-- A path leads where it did before a file was written there. -/
lemma follow_put {start : FilePath} {names : List String}
    (hlocation : files.isDirectory location = false)
    (h : files.follow path start names = .ok location) :
    (files.put location content).follow path start names = .ok location := by
  refine follow_of_kept (fun above hfile hdirectory => ?_) h
  have hne : above ≠ location := by
    rintro rfl
    rw [hlocation] at hdirectory
    cases hdirectory
  exact ⟨(OrderedMap.contains_insert_of_ne _ content hne).trans hfile,
    isDirectory_put content hdirectory⟩

end Put

/-- A text was written: its path leads to where it stands now, and no other text has changed. -/
def Saved (files : Files) (text content : String) (next : Files) : Prop :=
  ∃ location, next.locate (FilePath.ofString text) = .ok location ∧
    next.contents = files.contents.insert location (Text.Utf8.encode content.toList)

/-- A text that is written behind its directories is saved. -/
theorem saved_of_write {text content : String} {written : Files}
    (hmade : files.makeDirectories path = .ok made)
    (hwritten : made.write text content = .ok written) :
    files.Saved text content written := by
  obtain ⟨location, hlocation, hdirectory, rfl⟩ := writeBytes_eq_ok_iff.1 hwritten
  refine ⟨location, follow_put _ hdirectory hlocation, ?_⟩
  rw [put, contents_makeDirectories hmade]

/-! ### Removing a file -/

/-- The files without the one at a location; the directories above it stay. -/
def remove (files : Files) (location : FilePath) : Files :=
  ⟨files.contents.erase location, files.directories ++ steps location.parent⟩

/-- The file is removed where its path leads. -/
lemma erase_eq {text : String} (h : files.locate (FilePath.ofString text) = .ok location) :
    files.erase text = if files.isFile location then files.remove location else files := by
  rw [erase, h]
  rfl

/-- A directory above a location is one of the steps to its parent. -/
lemma mem_steps_parent {above : FilePath} (hne : above ≠ []) (h : above <+: location)
    (hlt : above.length < location.length) : above ∈ steps location.parent := by
  have hpos : 0 < above.length := List.length_pos_of_ne_nil hne
  have hparent : location.parent = location.dropLast := by
    rw [FilePath.parent, if_neg]
    rintro rfl
    rw [List.length_singleton] at hlt
    omega
  rw [hparent, steps, List.mem_map]
  refine ⟨above.length - 1, ?_, ?_⟩
  · rw [List.mem_range, List.length_dropLast]
    omega
  · rw [List.prefix_iff_eq_take.1 h, List.dropLast_eq_take, List.take_take, List.length_take]
    congr 1
    omega

/-- A location is none of the steps to its parent, unless it is the root. -/
lemma notMem_steps_parent (hroot : location ≠ ["/"]) : location ∉ steps location.parent := by
  rw [FilePath.parent, if_neg hroot, steps, List.mem_map]
  rintro ⟨n, hn, hsame⟩
  have hlength := congrArg List.length hsame
  rw [List.mem_range, List.length_dropLast] at hn
  rw [List.length_take, List.length_dropLast] at hlength
  omega

lemma isDirectory_remove {other : FilePath} (h : files.isDirectory other = true) :
    (files.remove location).isDirectory other = true := by
  simp only [isDirectory, remove, Bool.or_eq_true, Bool.and_eq_true, decide_eq_true_eq,
    List.any_eq_true, List.contains_iff_mem, List.mem_append, List.isPrefixOf_iff_prefix] at h ⊢
  obtain (hroot | hmade) | ⟨path, hpath, habove, hlt⟩ := h
  · exact .inl (.inl hroot)
  · exact .inl (.inr (.inl hmade))
  · -- Only a directory above the removed file may be there by that file alone.
    by_cases hself : path = location
    · subst hself
      by_cases hne : other = []
      · exact .inl (.inl (.inl hne))
      · exact .inl (.inr (.inr (mem_steps_parent hne habove hlt)))
    · exact .inr ⟨path, (OrderedMap.mem_keys_erase_iff _).2 ⟨hself, hpath⟩, habove, hlt⟩

lemma isFile_remove {other : FilePath} (h : files.isFile other = false) :
    (files.remove location).isFile other = false := by
  rw [isFile, Bool.eq_false_iff, ne_eq, OrderedMap.contains_iff_mem_keys] at h ⊢
  exact fun hmem => h ((OrderedMap.mem_keys_erase_iff _).1 hmem).2

/-- Where no directory was there is none afterwards. -/
lemma isDirectory_remove_self (h : files.isDirectory location = false) :
    (files.remove location).isDirectory location = false := by
  rw [Bool.eq_false_iff] at h ⊢
  intro hremoved
  have hroot : location ≠ ["/"] := fun hroot => h (by simp [isDirectory, hroot])
  refine h ?_
  simp only [isDirectory, remove, Bool.or_eq_true, Bool.and_eq_true, decide_eq_true_eq,
    List.any_eq_true, List.contains_iff_mem, List.mem_append] at hremoved ⊢
  obtain (hroot | hmade | hstep) | ⟨path, hpath, hbelow⟩ := hremoved
  · exact .inl (.inl hroot)
  · exact .inl (.inr hmade)
  · exact absurd hstep (notMem_steps_parent hroot)
  · exact .inr ⟨path, ((OrderedMap.mem_keys_erase_iff _).1 hpath).2, hbelow⟩

/-- A path leads where it did before a file was removed. -/
lemma follow_remove {other : FilePath} {start : FilePath} {names : List String}
    (h : files.follow path start names = .ok other) :
    (files.remove location).follow path start names = .ok other :=
  follow_of_kept (fun _ hfile hdirectory => ⟨isFile_remove hfile, isDirectory_remove hdirectory⟩) h

/-! ### What stands where a path leads -/

/-- The text that is read from a content. -/
def textOf (content : List UInt8) : Except ReadFault String :=
  ((Text.Utf8.decode content).mapError .broken).map fun s => String.ofList (unifyBreaks s)

/-- What is read of a content, or where there is none. -/
def reading (text : String) : Option (List UInt8) → Except ReadFault String
  | some content => textOf content
  | none => .error (.file ⟨.notFound, some (FilePath.ofString text).toString⟩)

/-- A path leads to a file with a content, or to where there is neither a file nor a directory. -/
def Holds (files : Files) (text : String) (content? : Option (List UInt8)) : Prop :=
  ∃ location, files.locate (FilePath.ofString text) = .ok location ∧
    files.isDirectory location = false ∧ files.contents.get? location = content?

namespace Holds

variable {text : String} {content? : Option (List UInt8)} (h : files.Holds text content?)

include h

/-- Without a file nothing is found. -/
lemma bytes_eq : files.bytes text =
    content?.elim (.error ⟨.notFound, some (FilePath.ofString text).toString⟩) .ok := by
  obtain ⟨location, hlocation, hfree, hcontent⟩ := h
  rw [bytes, hlocation]
  dsimp only [bind, Except.bind]
  rw [hcontent, hfree]
  cases content? <;> rfl

/-- The content is read, if it is a text. -/
theorem read_eq : files.read text = reading text content? := by
  rw [read, h.bytes_eq]
  cases content? with
  | none => rfl
  | some content =>
    rw [reading, textOf]
    change ((Text.Utf8.decode content).mapError ReadFault.broken).bind _ = _
    cases Text.Utf8.decode content <;> rfl

/-- A content can be written, and then stands there. -/
theorem writeBytes (content : List UInt8) :
    ∃ written, files.writeBytes text content = .ok written ∧ written.Holds text (some content) := by
  obtain ⟨location, hlocation, hfree, -⟩ := h
  refine ⟨files.put location content, writeBytes_eq_ok_iff.2 ⟨location, hlocation, hfree, rfl⟩,
    location, follow_put content hfree hlocation, isDirectory_put_self content hfree, ?_⟩
  exact OrderedMap.get?_alter_self _ _ _

/-- What is removed is not there. -/
theorem erase : (files.erase text).Holds text none := by
  obtain ⟨location, hlocation, hfree, -⟩ := h
  rw [erase_eq hlocation]
  cases hfile : files.isFile location with
  | true =>
    exact ⟨location, follow_remove hlocation, isDirectory_remove_self hfree,
      OrderedMap.get?_erase_self _⟩
  | false =>
    refine ⟨location, hlocation, hfree, ?_⟩
    rwa [isFile, OrderedMap.contains, Option.isSome_eq_false_iff,
      Option.isNone_iff_eq_none] at hfile

end Holds

end Files

end RuleFixtures
