import RuleFixtures.Proofs.Fixtures.Comparison

/-!
The history after any offers.

* `Accumulator.Operation` is an offer of the samples of a key or of all series of a result,
  `Accumulator.runAll` makes several and lists what they tell.
* `Accumulator.offers` lists what is offered, key by key. `Accumulator.exists_run` is the step of a
  run, `Accumulator.exists_runAll` says that a run keeps the first offer for every key.
* `Accumulator.Kept` describes a run and what it tells, `Accumulator.kept_runAll` proves it.
* `Accumulator.Rows` describes the rows of its history, `Accumulator.exists_rows` proves that there
  are such.
* `Accumulator.first_offers_kept`: the history and its rows are settled by the first offers.
-/

namespace RuleFixtures

/-- The value of the first entry, or of the first one behind. -/
lemma lookupEntry_append {α β : Type} [DecidableEq α] (key : α) (first second : List (α × β)) :
    lookupEntry key (first ++ second) = (lookupEntry key first).or (lookupEntry key second) := by
  induction first with
  | nil => rfl
  | cons entry rest ih =>
    obtain ⟨k, v⟩ := entry
    by_cases h : k = key <;> simp [lookupEntry, h, ih]

/-- What a series offers: its samples for its key, if it has one. -/
def Stream.offer? (stream : Stream) : Option (Json × List Sample) :=
  stream.key.toOption.map fun key => (key, stream.samples)

/-- The first offer for a key is that of the first series with it. -/
lemma lookupEntry_filterMap_offer? (key : Json) (streams : List Stream) :
    lookupEntry key (streams.filterMap Stream.offer?) =
      (firstWith key streams).map Stream.samples := by
  induction streams with
  | nil => rfl
  | cons stream rest ih =>
    cases hkey : stream.key with
    | error fault =>
      have hnone : stream.offer? = none := by rw [Stream.offer?, hkey]; rfl
      have hother : stream.hasKey key = false := by simp [Stream.hasKey, hkey]
      rw [List.filterMap_cons_none hnone, firstWith, List.find?_cons_of_neg (by simp [hother]), ih]
      rfl
    | ok other =>
      have hsome : stream.offer? = some (other, stream.samples) := by rw [Stream.offer?, hkey]; rfl
      have hhas : stream.hasKey key = decide (other = key) := by simp [Stream.hasKey, hkey]
      rw [List.filterMap_cons_some hsome, lookupEntry, firstWith]
      by_cases hsame : other = key
      · rw [if_pos hsame, List.find?_cons_of_pos (by simp [hhas, hsame]), Option.map_some]
      · rw [if_neg hsame, List.find?_cons_of_neg (by simp [hhas, hsame]), ih]
        rfl

namespace Accumulator

/-! ### Runs of operations -/

/-- An operation on a history. -/
inductive Operation where
  | add (key : Json) (samples : List Sample)
  | addStreams (streams : List Stream)

/-- What an operation tells: whether the samples were kept, or how many series were. -/
inductive Reply where
  | kept (isNew : Bool)
  | counted (count : ℕ)
  deriving DecidableEq

/-- The number of keys that are new. -/
def Reply.count : Reply → ℕ
  | .kept isNew => if isNew then 1 else 0
  | .counted count => count

/-- Makes an operation. -/
def Operation.run (history : Accumulator) : Operation → Except ShapeFault Reply × Accumulator
  | .add key samples =>
    match history.add key samples with
    | .ok (isNew, grown) => (.ok (.kept isNew), grown)
    | .error fault => (.error fault, history)
  | .addStreams streams =>
    let (counted, grown) := history.addStreams streams
    (counted.map .counted, grown)

/-- Makes operations in turn. -/
def runAll (history : Accumulator) :
    List Operation → List (Except ShapeFault Reply) × Accumulator
  | [] => ([], history)
  | operation :: rest =>
    let (reply, grown) := operation.run history
    let (replies, final) := runAll grown rest
    (reply :: replies, final)

/-- What is offered, key by key. -/
def Operation.offers : Operation → List (Json × List Sample)
  | .add key samples => [(key, samples)]
  | .addStreams streams => streams.filterMap Stream.offer?

/-- What is offered by several operations. -/
def offers (operations : List Operation) : List (Json × List Sample) :=
  operations.flatMap Operation.offers

/-- The keys for which something is offered. -/
def offeredKeys (operations : List Operation) : List Json := (offers operations).map Prod.fst

/-- The keys are texts, and so are the labels of the series. -/
def Operation.HasTexts : Operation → Prop
  | .add key _ => ∃ text, key = .text text
  | .addStreams streams => ∀ stream ∈ streams, stream.labels.AreTexts

lemma offers_cons (operation : Operation) (rest : List Operation) :
    offers (operation :: rest) = operation.offers ++ offers rest := List.flatMap_cons

lemma offers_append (first second : List Operation) :
    offers (first ++ second) = offers first ++ offers second := List.flatMap_append

lemma offeredKeys_append (first second : List Operation) :
    offeredKeys (first ++ second) = offeredKeys first ++ offeredKeys second := by
  rw [offeredKeys, offers_append, List.map_append]
  rfl

/-- What is offered has texts as keys. -/
lemma Operation.HasTexts.exists_text {operation : Operation} (h : operation.HasTexts) :
    ∀ offer ∈ operation.offers, ∃ text, offer.1 = .text text := by
  intro offer hoffer
  cases operation with
  | add key samples =>
    rw [List.mem_singleton.1 hoffer]
    exact h
  | addStreams streams =>
    obtain ⟨stream, hstream, hsome⟩ := List.mem_filterMap.1 hoffer
    obtain ⟨text, htext⟩ := (h stream hstream).exists_key
    rw [Stream.offer?, Stream.key, htext] at hsome
    exact ⟨text, by rw [← Option.some.inj hsome]⟩

lemma exists_text_of_mem_offeredKeys {operations : List Operation}
    (h : ∀ operation ∈ operations, operation.HasTexts) :
    ∀ key ∈ offeredKeys operations, ∃ text, key = .text text := by
  intro key hkey
  obtain ⟨offer, hoffer, rfl⟩ := List.mem_map.1 hkey
  obtain ⟨operation, hoperation, hoffer⟩ := List.mem_flatMap.1 hoffer
  exact (h operation hoperation).exists_text offer hoffer

/-- A step of a run: it tells how many keys are new, and keeps the first offer for each of them. -/
theorem exists_run (history : Accumulator) {operation : Operation} (h : operation.HasTexts) :
    ∃ reply grown, operation.run history = (.ok reply, grown) ∧
      OrderedMap.size grown = history.size + reply.count ∧
      ∀ key, grown.get? key = (history.get? key).or (lookupEntry key operation.offers) := by
  cases operation with
  | add key samples =>
    obtain ⟨text, rfl⟩ := h
    exact ⟨.kept (history.offer (.text text) samples).1, (history.offer (.text text) samples).2,
      rfl, size_offer history _ samples, fun other => get?_offer history _ other samples⟩
  | addStreams streams =>
    obtain ⟨count, grown, hrun, hsize, hget⟩ :=
      exists_addStreams history fun stream hstream => (h stream hstream).exists_key
    refine ⟨.counted count, grown, ?_, hsize, fun key => ?_⟩
    · rw [Operation.run, hrun]
      rfl
    · rw [hget, Operation.offers, lookupEntry_filterMap_offer?]

/-- An addition tells whether its key is new. -/
lemma run_add (history : Accumulator) (text : String) (samples : List Sample) :
    ((Operation.add (.text text) samples).run history).1 =
      .ok (.kept !history.contains (.text text)) := by
  change Except.ok (Reply.kept (history.offer (.text text) samples).1) = _
  rw [offer]
  cases history.contains (.text text) <;> rfl

/-! ### Several operations -/

lemma runAll_append (history : Accumulator) (first second : List Operation) :
    history.runAll (first ++ second) =
      ((history.runAll first).1 ++ ((history.runAll first).2.runAll second).1,
        ((history.runAll first).2.runAll second).2) := by
  induction first generalizing history with
  | nil => rfl
  | cons operation rest ih => simp [runAll, ih]

lemma length_runAll (history : Accumulator) (operations : List Operation) :
    (history.runAll operations).1.length = operations.length := by
  induction operations generalizing history with
  | nil => rfl
  | cons operation rest ih => simp [runAll, ih]

/-- A run: no operation fails, they tell how many keys are new, and the first offer for each of them
is kept. -/
theorem exists_runAll (history : Accumulator) {operations : List Operation}
    (h : ∀ operation ∈ operations, operation.HasTexts) :
    ∃ (replies : List Reply) (grown : Accumulator),
      history.runAll operations = (replies.map .ok, grown) ∧
      OrderedMap.size grown = history.size + (replies.map Reply.count).sum ∧
      ∀ key, grown.get? key = (history.get? key).or (lookupEntry key (offers operations)) := by
  induction operations generalizing history with
  | nil => exact ⟨[], history, rfl, rfl, fun key => (Option.or_none).symm⟩
  | cons operation rest ih =>
    rw [List.forall_mem_cons] at h
    obtain ⟨reply, middle, hrun, hsize, hget⟩ := exists_run history h.1
    obtain ⟨replies, grown, hruns, hsizes, hgets⟩ := ih middle h.2
    refine ⟨reply :: replies, grown, ?_, ?_, fun key => ?_⟩
    · rw [runAll, hrun]
      simp only [hruns]
      rfl
    · rw [hsizes, hsize, List.map_cons, List.sum_cons, add_assoc]
    · rw [hgets, hget, Option.or_assoc, offers_cons, lookupEntry_append]

/-- The keys that are kept are those for which something is offered. -/
lemma mem_keys_iff {history : Accumulator} {entries : List (Json × List Sample)}
    (h : ∀ key, history.get? key = lookupEntry key entries) (key : Json) :
    key ∈ history.keys ↔ key ∈ entries.map Prod.fst := by
  have hnone := lookupEntry_eq_none_iff key entries
  rw [← h key, history.get?_eq_none_iff] at hnone
  exact not_iff_not.1 hnone

/-- So their number is that of the distinct keys. -/
lemma size_eq_card {history : Accumulator} {entries : List (Json × List Sample)}
    (h : ∀ key, history.get? key = lookupEntry key entries) :
    history.size = (entries.map Prod.fst).toFinset.card := by
  have hsame : (entries.map Prod.fst).toFinset = history.keys.toFinset := by
    ext key
    rw [List.mem_toFinset, List.mem_toFinset, mem_keys_iff h]
  have hnodup : history.keys.Nodup := history.nodup
  rw [hsame, List.toFinset_card_of_nodup hnodup, OrderedMap.keys, List.length_map]
  rfl

/-- What an operation in a run tells. -/
lemma getElem?_runAll (history : Accumulator) (before : List Operation) (operation : Operation)
    (after : List Operation) :
    (history.runAll (before ++ operation :: after)).1[before.length]? =
      some (operation.run (history.runAll before).2).1 := by
  rw [runAll_append, ← length_runAll history before, List.getElem?_append_right le_rfl,
    Nat.sub_self]
  rfl

/-- The keys for which an operation makes the first offer. -/
def newKeys (before : List Operation) (operation : Operation) : Finset Json :=
  (operation.offers.map Prod.fst).toFinset \ (offeredKeys before).toFinset

lemma card_offeredKeys_append (before : List Operation) (operation : Operation) :
    (offeredKeys (before ++ [operation])).toFinset.card =
      (offeredKeys before).toFinset.card + (newKeys before operation).card := by
  have hkeys : offeredKeys [operation] = operation.offers.map Prod.fst := by
    rw [offeredKeys, offers, List.flatMap_singleton]
  rw [offeredKeys_append, hkeys, List.toFinset_append, ← Finset.union_sdiff_self_eq_union, newKeys,
    Finset.card_union_of_disjoint Finset.disjoint_sdiff]

/-- What a run from nothing keeps and tells. -/
structure Kept (operations : List Operation) (replies : List (Except ShapeFault Reply))
    (history : Accumulator) : Prop where
  /-- A key is known if something was offered for it. -/
  contains_iff : ∀ key, history.contains key = true ↔ key ∈ offeredKeys operations
  /-- Its samples are those of the first offer. -/
  get? : ∀ key, history.get? key = lookupEntry key (offers operations)
  /-- Later operations do not change them. -/
  lasting : ∀ before after, operations = before ++ after → ∀ key samples,
    (runAll .empty before).2.get? key = some samples → history.get? key = some samples
  /-- There are as many keys as distinct ones were offered. -/
  size : history.size = (offeredKeys operations).toFinset.card
  /-- No operation fails, and they tell of as many new keys as there are keys. -/
  counted : ∃ told : List Reply, replies = told.map .ok ∧ (told.map Reply.count).sum = history.size
  /-- An addition tells whether it is the first offer for its key. -/
  add : ∀ before key samples after, operations = before ++ .add key samples :: after →
    replies[before.length]? = some (.ok (.kept (decide (key ∉ offeredKeys before))))
  /-- Series tell for how many keys they are the first offer. -/
  addStreams : ∀ before streams after, operations = before ++ .addStreams streams :: after →
    replies[before.length]? = some (.ok (.counted (newKeys before (.addStreams streams)).card))

section Runs

variable {operations : List Operation} (h : ∀ operation ∈ operations, operation.HasTexts)

include h

/-- A run from nothing keeps the first offers. -/
lemma get?_runAll (key : Json) :
    (runAll .empty operations).2.get? key = lookupEntry key (offers operations) := by
  obtain ⟨replies, grown, hrun, _, hget⟩ := exists_runAll .empty h
  rw [hrun, hget]
  rfl

lemma size_runAll : OrderedMap.size (runAll .empty operations).2 =
    (offeredKeys operations).toFinset.card :=
  size_eq_card (get?_runAll h)

lemma contains_runAll (key : Json) :
    (runAll .empty operations).2.contains key = true ↔ key ∈ offeredKeys operations := by
  rw [OrderedMap.contains_iff_mem_keys, mem_keys_iff (get?_runAll h), offeredKeys]

/-- A run from nothing keeps and tells what it should. -/
theorem kept_runAll :
    Kept operations (runAll .empty operations).1 (runAll .empty operations).2 where
  contains_iff := contains_runAll h
  get? := get?_runAll h
  lasting := by
    rintro before after rfl key samples hknown
    rw [List.forall_mem_append] at h
    rw [get?_runAll h.1] at hknown
    rw [get?_runAll (List.forall_mem_append.2 h), offers_append, lookupEntry_append, hknown,
      Option.some_or]
  size := size_runAll h
  counted := by
    obtain ⟨told, grown, hrun, hsize, _⟩ := exists_runAll .empty h
    refine ⟨told, by rw [hrun], ?_⟩
    rw [hrun, hsize]
    exact (Nat.zero_add _).symm
  add := by
    -- what one offer replies depends on the keys that were offered before it
    rintro before key samples after rfl
    rw [List.forall_mem_append, List.forall_mem_cons] at h
    obtain ⟨hbefore, ⟨text, rfl⟩, _⟩ := h
    have hknown := contains_runAll hbefore (.text text)
    rw [getElem?_runAll, run_add]
    by_cases hoffered : Json.text text ∈ offeredKeys before
    · rw [hknown.2 hoffered]
      simp [hoffered]
    · rw [Bool.eq_false_iff.2 (mt hknown.1 hoffered)]
      simp [hoffered]
  addStreams := by
    rintro before streams after rfl
    rw [List.forall_mem_append, List.forall_mem_cons] at h
    obtain ⟨hbefore, hstreams, _⟩ := h
    obtain ⟨count, grown, hrun, hsize, _⟩ := exists_addStreams (runAll .empty before).2
      fun stream hstream => (hstreams stream hstream).exists_key
    have hreply : (Operation.addStreams streams).run (runAll .empty before).2 =
        (.ok (.counted count), grown) := by
      rw [Operation.run, hrun]
      rfl
    have hgrown : (runAll .empty (before ++ [.addStreams streams])).2 = grown := by
      rw [runAll_append, runAll, hreply]
      rfl
    -- What is counted is what the history gains, and its size is that of the distinct keys.
    have hcard := size_runAll
      (List.forall_mem_append.2 ⟨hbefore, List.forall_mem_singleton.2 hstreams⟩)
    rw [hgrown, hsize, size_runAll hbefore, card_offeredKeys_append] at hcard
    rw [getElem?_runAll, hreply, Nat.add_left_cancel hcard]

end Runs

end Accumulator

/-! ### The rows of the keys -/

section Rows

variable (history : SampleHistory) (start : Instant) {step : Duration} (slots : ℕ)

/-- A key without samples gets its row, whatever the steps are. -/
lemma assembleRow_of_nil {key : Json} (h : (history.get? key).getD [] = []) :
    assembleRow history start step slots key = .ok (rowOf history start step slots key) := by
  have hvalues : List.replicate slots missingValue =
      (List.range slots).map (slotText start step []) := by
    rw [show slotText start step [] = fun _ => missingValue from rfl, List.map_const',
      List.length_range]
  rw [assembleRow, rowOf, h, ← hvalues]
  rfl

/-- Steps without length fail at the first sample. -/
lemma assembleRow_eq_error (hstep : step.micros = 0) {key : Json}
    (h : (history.get? key).getD [] ≠ []) :
    assembleRow history start step slots key = .error (.range .divisionByZero) := by
  obtain ⟨sample, rest, hsamples⟩ := List.exists_cons_of_ne_nil h
  have hslot : slotOf start step sample.time = .error .divisionByZero := by
    simp [slotOf, Duration.ratio?, Binary64.ofIntRatio?, hstep]
  rw [assembleRow, hsamples, rowValues, fillSlots, hslot]
  rfl

/-- The rows of a history whose keys are texts are made in the order of the texts. -/
lemma assemble_of_texts {texts : List String} (h : history.keys = texts.map .text) :
    assemble history start step slots = assembleRows history start step slots
      ((texts.mergeSort fun a b => decide (a ≤ b)).map .text) := by
  rw [assemble, h, Json.sortBy_text]
  rfl

variable {keys : List Json}

lemma assembleRows_eq_of_nil (h : ∀ key ∈ keys, (history.get? key).getD [] = []) :
    assembleRows history start step slots keys =
      .ok (keys.map (rowOf history start step slots)) := by
  induction keys with
  | nil => rfl
  | cons key rest ih =>
    rw [List.forall_mem_cons] at h
    rw [assembleRows, assembleRow_of_nil history start slots h.1]
    simp only [bind, Except.bind, ih h.2]
    rfl

lemma assembleRows_eq_error (hstep : step.micros = 0)
    (h : ∃ key ∈ keys, (history.get? key).getD [] ≠ []) :
    assembleRows history start step slots keys = .error (.range .divisionByZero) := by
  induction keys with
  | nil =>
    obtain ⟨key, hkey, _⟩ := h
    exact absurd hkey List.not_mem_nil
  | cons key rest ih =>
    rw [assembleRows]
    by_cases hkey : (history.get? key).getD [] = []
    · rw [List.exists_mem_cons_iff] at h
      rw [assembleRow_of_nil history start slots hkey]
      simp only [bind, Except.bind, ih (h.resolve_left (not_not.2 hkey))]
    · rw [assembleRow_eq_error history start slots hstep hkey]
      rfl

end Rows

namespace Accumulator

/-- The rows of a history of first offers. -/
structure Rows (operations : List Operation) (history : Accumulator) (keys : List String) :
    Prop where
  /-- The keys are strictly ascending. -/
  ascending : keys.Pairwise (· < ·)
  /-- They are those for which something was offered. -/
  mem_iff : ∀ key, key ∈ keys ↔ .text key ∈ offeredKeys operations
  /-- Each of them has a row, unless steps have no length and there are samples. -/
  rows : ∀ start step slots,
    step.micros ≠ 0 ∨ (∀ key ∈ keys, lookupEntry (.text key) (offers operations) = some []) →
    assemble history start step slots =
      .ok (keys.map fun key => rowOf history start step slots (.text key))
  /-- Then it fails. -/
  fails : ∀ start step slots, step.micros = 0 →
    (∃ key ∈ keys, lookupEntry (.text key) (offers operations) ≠ some []) →
    assemble history start step slots = .error (.range .divisionByZero)

section Rows

variable {operations : List Operation} (h : ∀ operation ∈ operations, operation.HasTexts)

include h

/-- The keys that are kept are texts. -/
lemma exists_text_of_mem_keys :
    ∀ key ∈ (runAll .empty operations).2.keys, ∃ text, key = .text text := fun key hkey =>
  exists_text_of_mem_offeredKeys h key ((mem_keys_iff (get?_runAll h) key).1 hkey)

/-- A key for which something was offered has samples. -/
lemma lookupEntry_offers {key : Json} (hkey : key ∈ offeredKeys operations) :
    lookupEntry key (offers operations) =
      some (((runAll .empty operations).2.get? key).getD []) := by
  have hknown := mt (lookupEntry_eq_none_iff key (offers operations)).1 (not_not.2 hkey)
  obtain ⟨samples, hsamples⟩ := Option.ne_none_iff_exists'.1 hknown
  rw [get?_runAll h, hsamples, Option.getD_some]

/-- The history after operations has its rows. -/
theorem exists_rows : ∃ keys, Rows operations (runAll .empty operations).2 keys := by
  have hsamples (key : Json) (hkey : key ∈ offeredKeys operations) := lookupEntry_offers h hkey
  have hkeys := mem_keys_iff (get?_runAll h)
  obtain ⟨texts, htexts⟩ := Json.exists_texts (exists_text_of_mem_keys h)
  -- nothing but the keys of the history and their samples matters from here on
  set history := (runAll .empty operations).2
  have hnodup : texts.Nodup := by
    have hnodup : history.keys.Nodup := history.nodup
    rw [htexts] at hnodup
    exact hnodup.of_map
  have hmem (key : String) : key ∈ texts.mergeSort (fun a b => decide (a ≤ b)) ↔
      .text key ∈ offeredKeys operations := by
    rw [List.mem_mergeSort, offeredKeys, ← hkeys, htexts,
      List.mem_map_of_injective fun _ _ => Json.text.inj]
  refine ⟨_, pairwise_lt_mergeSort hnodup, hmem, fun start step slots hsteps => ?_,
    fun start step slots hstep hsome => ?_⟩
  · -- Without samples no step is counted, so rows are made even if steps have no length.
    obtain hstep | hnone := hsteps
    · rw [assemble_eq history start hstep slots htexts, List.map_map]
      rfl
    · rw [assemble_of_texts history start slots htexts, assembleRows_eq_of_nil, List.map_map]
      · rfl
      · intro key hkey
        obtain ⟨text, htext, rfl⟩ := List.mem_map.1 hkey
        have hfirst := hnone text htext
        rwa [hsamples _ ((hmem text).1 htext), Option.some.injEq] at hfirst
  · obtain ⟨text, htext, hfirst⟩ := hsome
    rw [hsamples _ ((hmem text).1 htext), ne_eq, Option.some.injEq] at hfirst
    rw [assemble_of_texts history start slots htexts]
    exact assembleRows_eq_error history start slots hstep ⟨_, List.mem_map_of_mem htext, hfirst⟩

end Rows

/-- The history after any operations keeps the first offer for every key and tells how many are
new. It has a row for every key, in ascending order, and the rows are the same whenever the first
offers are. -/
theorem first_offers_kept {operations : List Operation}
    (h : ∀ operation ∈ operations, operation.HasTexts) :
    Kept operations (runAll .empty operations).1 (runAll .empty operations).2 ∧
      (∃ keys, Rows operations (runAll .empty operations).2 keys) ∧
      ∀ others, (∀ operation ∈ others, operation.HasTexts) →
        (∀ key, lookupEntry key (offers others) = lookupEntry key (offers operations)) →
        ∀ start step slots, assemble (runAll .empty others).2 start step slots =
          assemble (runAll .empty operations).2 start step slots := by
  refine ⟨kept_runAll h, exists_rows h, fun others hothers hsame start step slots => ?_⟩
  have halike : SampleHistory.Alike (runAll .empty others).2 (runAll .empty operations).2 :=
    ⟨exists_text_of_mem_keys hothers, fun key => by
      rw [get?_runAll hothers, get?_runAll h, hsame]⟩
  exact halike.assemble_eq start step slots

/-- Two series of one key, and two offers for a key of which the first has no samples. -/
def twiceOffered : List Operation :=
  [.addStreams [⟨.ofTexts namedUp, [⟨⟨0⟩, .ofInt 1⟩]⟩, ⟨.ofTexts namedUp, [⟨⟨0⟩, .ofInt 2⟩]⟩],
    .add (.text "down") [], .add (.text "down") [⟨⟨0⟩, .ofInt 3⟩]]

/-- The same with the keys in another order. -/
def otherwiseOffered : List Operation :=
  [.add (.text "down") [], .add (.text "up") [⟨⟨0⟩, .ofInt 1⟩],
    .addStreams [⟨.ofTexts namedUp, [⟨⟨0⟩, .ofInt 2⟩]⟩]]

/-- Nothing is kept of the later offers. -/
theorem down_remains_empty :
    (∀ operation ∈ twiceOffered, operation.HasTexts) ∧
      (∀ operation ∈ otherwiseOffered, operation.HasTexts) ∧
      (runAll .empty twiceOffered).2.get? (.text "down") = some [] ∧
      (runAll .empty twiceOffered).2.size = 2 ∧
      (runAll .empty twiceOffered).1[2]? = some (.ok (.kept false)) ∧
      assemble (runAll .empty otherwiseOffered).2 ⟨0⟩ (.ofMinutes 1) 2 =
        assemble (runAll .empty twiceOffered).2 ⟨0⟩ (.ofMinutes 1) 2 := by
  have hup : (Labels.ofTexts namedUp).AreTexts := ⟨namedUp, rfl⟩
  have hfirst : ∀ operation ∈ twiceOffered, operation.HasTexts := by
    simp [twiceOffered, Operation.HasTexts, hup]
  have hsecond : ∀ operation ∈ otherwiseOffered, operation.HasTexts := by
    simp [otherwiseOffered, Operation.HasTexts, hup]
  have hkey : (Labels.ofTexts namedUp).key = .ok (.text "up") := by cbv
  -- the same offers, as pairs of a key and its samples
  have hoffers : offers twiceOffered = [(.text "up", [⟨⟨0⟩, .ofInt 1⟩]),
      (.text "up", [⟨⟨0⟩, .ofInt 2⟩]), (.text "down", []), (.text "down", [⟨⟨0⟩, .ofInt 3⟩])] := by
    simp [offers, twiceOffered, Operation.offers, Stream.offer?, Stream.key, hkey,
      Except.toOption]
  have hothers : offers otherwiseOffered = [(.text "down", []), (.text "up", [⟨⟨0⟩, .ofInt 1⟩]),
      (.text "up", [⟨⟨0⟩, .ofInt 2⟩])] := by
    simp [offers, otherwiseOffered, Operation.offers, Stream.offer?, Stream.key, hkey,
      Except.toOption]
  obtain ⟨hkept, _, hrows⟩ := first_offers_kept hfirst
  refine ⟨hfirst, hsecond, ?_, ?_, ?_, ?_⟩
  · rw [hkept.get?, hoffers]
    rfl
  · rw [hkept.size, offeredKeys, hoffers]
    rfl
  · refine (hkept.add (twiceOffered.take 2) _ _ [] rfl).trans ?_
    simp [offeredKeys, offers, twiceOffered, Operation.offers]
  · refine hrows _ hsecond (fun key => ?_) _ _ _
    rw [hoffers, hothers]
    by_cases hdown : .text "down" = key
    · rw [← hdown]
      rfl
    · simp [lookupEntry, hdown]

end Accumulator

end RuleFixtures
