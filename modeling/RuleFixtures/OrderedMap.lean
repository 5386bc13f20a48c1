/-!
Maps that remember the order in which their keys first came.

* `OrderedMap.alter` changes the value of a key in its place, or puts a new key at the end;
  `OrderedMap.insert` is the case that forgets the old value.
* `keys_alter`, `get?_alter_self` and `get?_alter_of_ne` describe the map after a change.
* `get?_eq_some_iff` and `get?_eq_none_iff` say which values are found; `entries_eq_map` puts the
  entries together from the keys and the values.
* `entries_ofList`: a list of entries with distinct keys is kept as it is; `ofList_entries`: a map
  is made again from its entries.
-/

namespace RuleFixtures

/-- Changes the value of a key in a list of entries, or adds the key at the end. -/
def alterEntry {α β : Type} [DecidableEq α] (key : α) (change : Option β → β) :
    List (α × β) → List (α × β)
  | [] => [(key, change none)]
  | (k, v) :: rest =>
    if k = key then (k, change (some v)) :: rest else (k, v) :: alterEntry key change rest

/-- The value of the first entry with a key. -/
def lookupEntry {α β : Type} [DecidableEq α] (key : α) : List (α × β) → Option β
  | [] => none
  | (k, v) :: rest => if k = key then some v else lookupEntry key rest

section Entries

variable {α β : Type} [DecidableEq α]

theorem alterEntry_nil (key : α) (change : Option β → β) :
    alterEntry key change [] = [(key, change none)] := rfl

theorem alterEntry_cons (key : α) (change : Option β → β) (entry : α × β)
    (rest : List (α × β)) :
    alterEntry key change (entry :: rest) =
      if entry.1 = key then (entry.1, change (some entry.2)) :: rest
      else entry :: alterEntry key change rest := rfl

theorem lookupEntry_nil (key : α) : lookupEntry key ([] : List (α × β)) = none := rfl

theorem lookupEntry_cons (key : α) (entry : α × β) (rest : List (α × β)) :
    lookupEntry key (entry :: rest) =
      if entry.1 = key then some entry.2 else lookupEntry key rest := rfl

theorem keys_alterEntry (key : α) (change : Option β → β) (entries : List (α × β)) :
    (alterEntry key change entries).map Prod.fst =
      if key ∈ entries.map Prod.fst then entries.map Prod.fst
      else entries.map Prod.fst ++ [key] := by
  induction entries with
  | nil => rfl
  | cons entry rest ih =>
    by_cases h : entry.1 = key
    · simp [alterEntry_cons, h]
    · have h' : ¬ key = entry.1 := fun e => h e.symm
      simp only [alterEntry_cons, h, if_false, List.map_cons, ih, List.mem_cons, h', false_or]
      split <;> simp

theorem lookupEntry_alterEntry_self (key : α) (change : Option β → β) (entries : List (α × β)) :
    lookupEntry key (alterEntry key change entries) = some (change (lookupEntry key entries)) := by
  induction entries with
  | nil => simp [alterEntry_nil, lookupEntry_nil, lookupEntry_cons]
  | cons entry rest ih =>
    by_cases h : entry.1 = key <;> simp [alterEntry_cons, lookupEntry_cons, h, ih]

theorem lookupEntry_alterEntry_of_ne {key other : α} (h : other ≠ key) (change : Option β → β)
    (entries : List (α × β)) :
    lookupEntry other (alterEntry key change entries) = lookupEntry other entries := by
  induction entries with
  | nil => simp [alterEntry_nil, lookupEntry_cons, Ne.symm h]
  | cons entry rest ih =>
    by_cases hk : entry.1 = key
    · simp [alterEntry_cons, lookupEntry_cons, hk, Ne.symm h]
    · simp [alterEntry_cons, lookupEntry_cons, hk, ih]

theorem lookupEntry_eq_some_iff {entries : List (α × β)} (h : (entries.map Prod.fst).Nodup)
    (key : α) (value : β) : lookupEntry key entries = some value ↔ (key, value) ∈ entries := by
  induction entries with
  | nil => simp [lookupEntry_nil]
  | cons entry rest ih =>
    obtain ⟨k, v⟩ := entry
    rw [List.map_cons, List.nodup_cons] at h
    by_cases hk : k = key
    · have hrest : (key, value) ∉ rest := by
        subst hk
        exact fun hmem => h.1 (List.mem_map.2 ⟨_, hmem, rfl⟩)
      simp [lookupEntry_cons, hk, hrest, eq_comm]
    · simp [lookupEntry_cons, hk, ih h.2, Ne.symm hk]

theorem lookupEntry_eq_none_iff (key : α) (entries : List (α × β)) :
    lookupEntry key entries = none ↔ key ∉ entries.map Prod.fst := by
  induction entries with
  | nil => simp [lookupEntry_nil]
  | cons entry rest ih =>
    by_cases h : entry.1 = key
    · simp [lookupEntry_cons, h]
    · simp [lookupEntry_cons, h, ih, Ne.symm h]

/-- A new key goes to the end. -/
theorem alterEntry_of_notMem {key : α} {change : Option β → β} {entries : List (α × β)}
    (h : key ∉ entries.map Prod.fst) :
    alterEntry key change entries = entries ++ [(key, change none)] := by
  induction entries with
  | nil => rfl
  | cons entry rest ih =>
    rw [List.map_cons, List.mem_cons, not_or] at h
    rw [alterEntry_cons, if_neg (Ne.symm h.1), ih h.2, List.cons_append]

end Entries

/-- Entries with distinct keys, in the order in which the keys first came. -/
structure OrderedMap (α β : Type) where
  entries : List (α × β)
  nodup : (entries.map Prod.fst).Nodup

namespace OrderedMap

variable {α β : Type}

instance [DecidableEq α] [DecidableEq β] : DecidableEq (OrderedMap α β) := fun m n =>
  decidable_of_iff (m.entries = n.entries) (by cases m; cases n; simp)

/-- The map without keys. -/
def empty : OrderedMap α β := ⟨[], by simp⟩

instance : Inhabited (OrderedMap α β) := ⟨empty⟩

/-- The keys in order. -/
def keys (m : OrderedMap α β) : List α := m.entries.map Prod.fst

/-- The number of keys. -/
def size (m : OrderedMap α β) : Nat := m.entries.length

/-- Has the map no keys? -/
def isEmpty (m : OrderedMap α β) : Bool := m.entries.isEmpty

/-- A map is known by its entries. -/
theorem ext_entries {m n : OrderedMap α β} (h : m.entries = n.entries) : m = n := by
  cases m
  cases n
  cases h
  rfl

variable [DecidableEq α]

/-- The value of a key. -/
def get? (m : OrderedMap α β) (key : α) : Option β := lookupEntry key m.entries

/-- Is the key in the map? -/
def contains (m : OrderedMap α β) (key : α) : Bool := (m.get? key).isSome

/-- Changes the value of a key in its place, or adds the key at the end. -/
def alter (m : OrderedMap α β) (key : α) (change : Option β → β) : OrderedMap α β where
  entries := alterEntry key change m.entries
  nodup := by
    rw [keys_alterEntry]
    split
    · exact m.nodup
    · next h =>
      rw [List.nodup_append]
      refine ⟨m.nodup, by simp, ?_⟩
      intro a ha b hb hab
      rw [List.mem_singleton.mp hb] at hab
      exact h (hab ▸ ha)

/-- Sets the value of a key in its place, or adds the key at the end. -/
def insert (m : OrderedMap α β) (key : α) (value : β) : OrderedMap α β :=
  m.alter key fun _ => value

/-- The map of a list of entries; of entries with one key the last value counts. -/
def ofList (entries : List (α × β)) : OrderedMap α β :=
  entries.foldl (fun m entry => m.insert entry.1 entry.2) empty

/-- Removes a key. -/
def erase (m : OrderedMap α β) (key : α) : OrderedMap α β where
  entries := m.entries.filter fun entry => entry.1 ≠ key
  nodup := m.nodup.sublist (List.filter_sublist.map Prod.fst)

theorem keys_alter (m : OrderedMap α β) (key : α) (change : Option β → β) :
    (m.alter key change).keys = if key ∈ m.keys then m.keys else m.keys ++ [key] :=
  keys_alterEntry key change m.entries

theorem get?_alter_self (m : OrderedMap α β) (key : α) (change : Option β → β) :
    (m.alter key change).get? key = some (change (m.get? key)) :=
  lookupEntry_alterEntry_self key change m.entries

theorem get?_alter_of_ne (m : OrderedMap α β) {key other : α} (h : other ≠ key)
    (change : Option β → β) : (m.alter key change).get? other = m.get? other :=
  lookupEntry_alterEntry_of_ne h change m.entries

theorem get?_eq_some_iff (m : OrderedMap α β) (key : α) (value : β) :
    m.get? key = some value ↔ (key, value) ∈ m.entries :=
  lookupEntry_eq_some_iff m.nodup key value

theorem get?_eq_none_iff (m : OrderedMap α β) (key : α) : m.get? key = none ↔ key ∉ m.keys :=
  lookupEntry_eq_none_iff key m.entries

theorem contains_iff_mem_keys (m : OrderedMap α β) (key : α) :
    m.contains key = true ↔ key ∈ m.keys := by
  have h := m.get?_eq_none_iff key
  cases hg : m.get? key <;> simp_all [contains]

/-- The entries are the keys with their values. -/
theorem entries_eq_map (m : OrderedMap α β) {value : α → β}
    (h : ∀ key ∈ m.keys, m.get? key = some (value key)) :
    m.entries = m.keys.map fun key => (key, value key) := by
  rw [keys, List.map_map]
  refine (List.map_id _).symm.trans (List.map_congr_left fun entry hentry => ?_)
  have hget := (m.get?_eq_some_iff entry.1 entry.2).2 hentry
  rw [h entry.1 (List.mem_map.2 ⟨entry, hentry, rfl⟩), Option.some.injEq] at hget
  rw [Function.comp_apply, hget]
  rfl

/-- Entries with new and distinct keys are put behind those that are there. -/
theorem entries_foldl_insert (m : OrderedMap α β) {entries : List (α × β)}
    (h : ((m.entries ++ entries).map Prod.fst).Nodup) :
    (entries.foldl (fun m entry => m.insert entry.1 entry.2) m).entries = m.entries ++ entries := by
  induction entries generalizing m with
  | nil => simp
  | cons entry rest ih =>
    have hnew : entry.1 ∉ m.entries.map Prod.fst := by
      rw [List.map_append, List.nodup_append] at h
      exact fun hmem => h.2.2 entry.1 hmem entry.1 (by simp) rfl
    have hinsert : (m.insert entry.1 entry.2).entries = m.entries ++ [entry] :=
      alterEntry_of_notMem hnew
    have hsplit : m.entries ++ entry :: rest = (m.insert entry.1 entry.2).entries ++ rest := by
      rw [hinsert, List.append_assoc, List.singleton_append]
    rw [hsplit] at h ⊢
    exact ih _ h

/-- A list of entries with distinct keys is kept as it is. -/
theorem entries_ofList {entries : List (α × β)} (h : (entries.map Prod.fst).Nodup) :
    (ofList entries).entries = entries :=
  entries_foldl_insert empty h

/-- A map is made again from its entries. -/
theorem ofList_entries (m : OrderedMap α β) : ofList m.entries = m :=
  ext_entries (entries_ofList m.nodup)

end OrderedMap

end RuleFixtures
