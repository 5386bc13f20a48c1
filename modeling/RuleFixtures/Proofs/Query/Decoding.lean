import RuleFixtures.Proofs.Rules.Payload
import RuleFixtures.Query.Result

/-!
Results of queries, from the documents that a backend sends.

* `QueryResult.IsSent` is the shape of the documents: lists, objects and the name of the kind. What
  stands in the place of a pair may be anything.
* `Sample.IsReadFrom` and `QueryResult.IsReadFrom` say what is read, from which part.
* `QueryResult.pairsOf` lists the pairs that have to be read, and `CanBeRead` says which can.
* `QueryResult.decode_of_isSent`: a document is decoded to what is read from it, if all of the pairs
  can be read; otherwise the first that cannot is the fault.
-/

namespace RuleFixtures

/-! ### The parts of a document -/

/-- The items of a result. -/
def resultItems (data : Json) : List Json :=
  match data.member? "result" with
  | some (.list items) => items
  | _ => []

/-- The labels of an item, in their order. -/
def labelEntries (item : Json) : List (Json × Json) :=
  match item.member? "metric" with
  | some (.object members) => members.map fun (name, value) => (.text name, value)
  | _ => []

/-- The pairs of an item with several samples. -/
def valuePairs (item : Json) : List Json :=
  match item.member? "values" with
  | some (.list pairs) => pairs
  | _ => []

/-- Does the item have a value? -/
def hasValue (item : Json) : Bool := (item.member? "value").isSome

/-- An item is an object, and its labels are one too if there are any. -/
structure Json.IsSeries (item : Json) : Prop where
  isObject : item.IsObject
  metric : ∀ metric, item.member? "metric" = some metric →
    ∃ members, metric = .object members ∧ (members.map Prod.fst).Nodup

lemma Json.get_of_isObject {value : Json} {name : String} (h : value.IsObject) :
    value.get name = .ok (value.member? name) :=
  Json.get_eq_ok_iff.2 ⟨h, rfl⟩

/-- The pair of seconds and value. -/
structure Sample.IsReadFrom (sample : Sample) (pair : Json) : Prop where
  time : ∃ first seconds, pair.elementAt 0 = .ok first ∧ first.toDouble = .ok seconds ∧
    Instant.ofSeconds seconds = .ok sample.time
  value : ∃ second, pair.elementAt 1 = .ok second ∧ second.toDouble = .ok sample.value

lemma decodeTime_eq_ok_iff {raw : Json} {time : Instant} :
    decodeTime raw = .ok time ↔
      ∃ seconds, raw.toDouble = .ok seconds ∧ Instant.ofSeconds seconds = .ok time := by
  simp only [decodeTime, bind_eq_ok_iff, mapError_eq_ok_iff]

lemma Sample.ofPair_eq_ok_iff {pair : Json} {sample : Sample} :
    Sample.ofPair pair = .ok sample ↔ sample.IsReadFrom pair := by
  simp only [Sample.ofPair, bind_eq_ok_iff, pairElement, mapError_eq_ok_iff, decodeTime_eq_ok_iff]
  constructor
  · rintro ⟨first, hfirst, time, ⟨seconds, hseconds, htime⟩, second, hsecond, value, hvalue, h⟩
    cases h
    exact ⟨⟨first, seconds, hfirst, hseconds, htime⟩, second, hsecond, hvalue⟩
  · rintro ⟨⟨first, seconds, hfirst, hseconds, htime⟩, second, hsecond, hvalue⟩
    exact ⟨first, hfirst, _, ⟨seconds, hseconds, htime⟩, second, hsecond, _, hvalue, rfl⟩

namespace QueryResult

/-- The value of a result that is a single pair. -/
def single (data : Json) : Json := (data.member? "result").getD .null

/-- The text of a pair with its instant. -/
def textOfPair (pair : Json) : Except Fault (Instant × String) := do
  let time ← decodeTime (← pairElement pair 0)
  return (time, (← pairElement pair 1).display)

/-- The document has the kind and the containers that a backend sends. -/
structure IsSent (data : Json) (kind : ResultKind) : Prop where
  resultType : data.member? "resultType" = some (.text kind.name)
  result : kind = .vector ∨ kind = .matrix →
    ∀ content, data.member? "result" = some content →
      content = .null ∨ ∃ items, content = .list items
  series : kind = .vector ∨ kind = .matrix → ∀ item ∈ resultItems data, item.IsSeries
  values : kind = .matrix → ∀ item ∈ resultItems data, ∀ values,
    item.member? "values" = some values → ∃ pairs, values = .list pairs

/-- The pairs that have to be read, in their order. -/
def pairsOf (data : Json) : ResultKind → List Json
  | .scalar => [single data]
  | .string => [single data]
  | .vector => (resultItems data).flatMap fun item => (item.member? "value").toList
  | .matrix => (resultItems data).flatMap valuePairs

/-- The result is read from the parts of the document, each part in its place. -/
def IsReadFrom (data : Json) : QueryResult → Prop
  | .scalar sample => sample.IsReadFrom (single data)
  | .string time value =>
    (∃ first seconds, (single data).elementAt 0 = .ok first ∧ first.toDouble = .ok seconds ∧
      Instant.ofSeconds seconds = .ok time) ∧
    ∃ second, (single data).elementAt 1 = .ok second ∧ second.display = value
  | .vector series =>
    List.Forall₂ (fun item (entry : InstantSeries) => entry.labels.entries = labelEntries item ∧
      ∃ pair, item.member? "value" = some pair ∧ entry.sample.IsReadFrom pair)
      ((resultItems data).filter hasValue) series
  | .matrix series =>
    List.Forall₂ (fun item (stream : Stream) => stream.labels.entries = labelEntries item ∧
      List.Forall₂ (fun pair (sample : Sample) => sample.IsReadFrom pair) (valuePairs item)
        stream.samples)
      (resultItems data) series

/-- Reads a pair as results of the kind do. -/
def readPair (kind : ResultKind) (pair : Json) : Except Fault Unit :=
  match kind with
  | .string => (textOfPair pair).map fun _ => ()
  | _ => (Sample.ofPair pair).map fun _ => ()

/-- The pair has an instant in front, and a number behind it unless the result is a text. -/
structure CanBeRead (kind : ResultKind) (pair : Json) : Prop where
  time : ∃ first seconds time, pair.elementAt 0 = .ok first ∧ first.toDouble = .ok seconds ∧
    Instant.ofSeconds seconds = .ok time
  value : ∃ second, pair.elementAt 1 = .ok second ∧
    (kind ≠ .string → ∃ value, second.toDouble = .ok value)

/-! ### Reading the parts -/

variable {data item pair : Json} {kind : ResultKind}

lemma textOfPair_eq_ok_iff {time : Instant} {value : String} :
    textOfPair pair = .ok (time, value) ↔
      (∃ first seconds, pair.elementAt 0 = .ok first ∧ first.toDouble = .ok seconds ∧
        Instant.ofSeconds seconds = .ok time) ∧
      ∃ second, pair.elementAt 1 = .ok second ∧ second.display = value := by
  simp only [textOfPair, bind_eq_ok_iff, pairElement, mapError_eq_ok_iff, decodeTime_eq_ok_iff]
  constructor
  · rintro ⟨first, hfirst, _, ⟨seconds, hseconds, htime⟩, second, hsecond, h⟩
    cases h
    exact ⟨⟨first, seconds, hfirst, hseconds, htime⟩, second, hsecond, rfl⟩
  · rintro ⟨⟨first, seconds, hfirst, hseconds, htime⟩, second, hsecond, rfl⟩
    exact ⟨first, hfirst, time, ⟨seconds, hseconds, htime⟩, second, hsecond, rfl⟩

lemma readPair_eq_ok_iff : (∃ u, readPair kind pair = .ok u) ↔ CanBeRead kind pair := by
  by_cases hkind : kind = .string
  · subst hkind
    simp only [readPair, map_eq_ok_iff]
    constructor
    · rintro ⟨_, ⟨time, value⟩, hread, -⟩
      obtain ⟨⟨first, seconds, htime⟩, second, hsecond, -⟩ := textOfPair_eq_ok_iff.1 hread
      exact ⟨⟨first, seconds, time, htime⟩, second, hsecond, fun h => absurd rfl h⟩
    · rintro ⟨⟨first, seconds, time, htime⟩, second, hsecond, -⟩
      exact ⟨(), (time, second.display),
        textOfPair_eq_ok_iff.2 ⟨⟨first, seconds, htime⟩, second, hsecond, rfl⟩, trivial⟩
  · have hsample : readPair kind pair = (Sample.ofPair pair).map fun _ => () := by
      cases kind <;> first | rfl | exact absurd rfl hkind
    simp only [hsample, map_eq_ok_iff]
    constructor
    · rintro ⟨_, sample, hread, -⟩
      obtain ⟨⟨first, seconds, htime⟩, second, hsecond, hvalue⟩ := Sample.ofPair_eq_ok_iff.1 hread
      exact ⟨⟨first, seconds, _, htime⟩, second, hsecond, fun _ => ⟨_, hvalue⟩⟩
    · rintro ⟨⟨first, seconds, time, htime⟩, second, hsecond, hvalue⟩
      obtain ⟨value, hvalue⟩ := hvalue hkind
      exact ⟨(), ⟨time, value⟩, Sample.ofPair_eq_ok_iff.2
        ⟨⟨first, seconds, htime⟩, second, hsecond, hvalue⟩, trivial⟩

/-- The labels of an item, as a map. -/
def labelsOf (item : Json) : Labels := OrderedMap.ofList (labelEntries item)

lemma entries_labelsOf (h : item.IsSeries) : (labelsOf item).entries = labelEntries item := by
  refine OrderedMap.entries_ofList ?_
  rw [labelEntries]
  split
  · next members hmetric =>
    obtain ⟨_, heq, hdistinct⟩ := h.metric _ hmetric
    cases heq
    have hnames : ((members.map fun entry => (Json.text entry.1, entry.2)).map Prod.fst) =
        (members.map Prod.fst).map Json.text := by
      rw [List.map_map, List.map_map]
      rfl
    rw [hnames]
    exact hdistinct.map fun _ _ => Json.text.inj
  · simp

/-- They are the only labels with these entries. -/
lemma labelsOf_eq (h : item.IsSeries) {labels : Labels}
    (hentries : labels.entries = labelEntries item) : labelsOf item = labels :=
  OrderedMap.ext_entries ((entries_labelsOf h).trans hentries.symm)

lemma itemLabels_eq (h : item.IsSeries) : itemLabels item = .ok (labelsOf item) := by
  rw [itemLabels, Json.get_of_isObject h.isObject, labelsOf, labelEntries]
  cases hmetric : item.member? "metric" with
  | none => rfl
  | some metric =>
    obtain ⟨members, rfl, -⟩ := h.metric _ hmetric
    rfl

/-! ### The items of vectors and matrices -/

section Items

variable {items : List Json}

lemma decodeSamples_eq_mapM (pairs : List Json) :
    decodeSamples pairs = pairs.mapM Sample.ofPair := by
  induction pairs with
  | nil => rfl
  | cons pair rest ih => rw [decodeSamples, List.mapM_cons, ih]

lemma decodeMatrix_eq_mapM (items : List Json) : decodeMatrix items = items.mapM decodeStream := by
  induction items with
  | nil => rfl
  | cons item rest ih => rw [decodeMatrix, List.mapM_cons, ih]

/-- Items without a value are left out of a vector. -/
lemma decodeVector_eq_mapM (h : ∀ item ∈ items, item.IsObject) :
    decodeVector items = (items.filter hasValue).mapM decodeInstant := by
  induction items with
  | nil => rfl
  | cons item rest ih =>
    rw [List.forall_mem_cons] at h
    obtain ⟨members, rfl⟩ := h.1
    have hholds : (Json.holds (.object members) "value").mapError Fault.shape =
        .ok (hasValue (.object members)) := rfl
    rw [decodeVector, hholds, ih h.2]
    cases hvalue : hasValue (.object members) with
    | true =>
      rw [List.filter_cons_of_pos hvalue, List.mapM_cons]
      rfl
    | false =>
      rw [List.filter_cons_of_neg (by simp [hvalue])]
      rfl

lemma decodeInstant_eq (h : item.IsSeries) (hpair : item.member? "value" = some pair) :
    decodeInstant item = (Sample.ofPair pair).map fun sample => ⟨labelsOf item, sample⟩ := by
  rw [decodeInstant, itemLabels_eq h, Json.need_eq_ok_iff.2 hpair]
  change (Sample.ofPair pair >>= fun sample => pure (⟨labelsOf item, sample⟩ : InstantSeries)) = _
  cases Sample.ofPair pair <;> rfl

lemma decodeStream_eq (h : item.IsSeries)
    (hvalues : ∀ values, item.member? "values" = some values → ∃ pairs, values = .list pairs) :
    decodeStream item =
      ((valuePairs item).mapM Sample.ofPair).map fun samples => ⟨labelsOf item, samples⟩ := by
  rw [decodeStream, itemLabels_eq h, Json.get_of_isObject h.isObject, valuePairs]
  cases hmember : item.member? "values" with
  | none => rfl
  | some values =>
    obtain ⟨pairs, rfl⟩ := hvalues _ hmember
    change (decodeSamples pairs >>= fun samples => pure (⟨labelsOf item, samples⟩ : Stream)) = _
    rw [decodeSamples_eq_mapM]
    cases pairs.mapM Sample.ofPair <;> rfl

end Items

/-! ### Whole documents -/

/-- The labels of a sent item are those it has, and its sample is read from its pair. -/
lemma decodeInstant_eq_ok_iff (h : item.IsSeries) (hvalue : hasValue item) {entry : InstantSeries} :
    decodeInstant item = .ok entry ↔ entry.labels.entries = labelEntries item ∧
      ∃ pair, item.member? "value" = some pair ∧ entry.sample.IsReadFrom pair := by
  obtain ⟨pair, hpair⟩ := Option.isSome_iff_exists.1 hvalue
  rw [decodeInstant_eq h hpair, map_eq_ok_iff]
  constructor
  · rintro ⟨sample, hread, rfl⟩
    exact ⟨entries_labelsOf h, pair, hpair, Sample.ofPair_eq_ok_iff.1 hread⟩
  · rintro ⟨hlabels, _, hmember, hread⟩
    obtain rfl := Option.some.inj (hpair.symm.trans hmember)
    refine ⟨entry.sample, Sample.ofPair_eq_ok_iff.2 hread, ?_⟩
    rw [labelsOf_eq h hlabels]

lemma decodeStream_eq_ok_iff (h : item.IsSeries)
    (hvalues : ∀ values, item.member? "values" = some values → ∃ pairs, values = .list pairs)
    {stream : Stream} :
    decodeStream item = .ok stream ↔ stream.labels.entries = labelEntries item ∧
      List.Forall₂ (fun pair (sample : Sample) => sample.IsReadFrom pair) (valuePairs item)
        stream.samples := by
  rw [decodeStream_eq h hvalues, map_eq_ok_iff]
  simp only [mapM_eq_ok_iff, Sample.ofPair_eq_ok_iff]
  constructor
  · rintro ⟨samples, hread, rfl⟩
    exact ⟨entries_labelsOf h, hread⟩
  · rintro ⟨hlabels, hread⟩
    exact ⟨stream.samples, hread, by rw [labelsOf_eq h hlabels]⟩

lemma decodeKind_name (kind : ResultKind) : decodeKind (.text kind.name) = .ok kind := by
  cases kind <;> rfl

/-- A sent document is decoded by its kind. -/
lemma decode_eq (h : IsSent data kind) :
    decode data = decodeContent kind (data.member? "result") := by
  have hobject := Json.isObject_of_member? h.resultType
  rw [decode, Json.get_of_isObject hobject, h.resultType, Json.get_of_isObject hobject]
  change (do
    let kind ← (decodeKind (.text kind.name)).mapError Fault.shape
    decodeContent kind (data.member? "result")) = _
  rw [decodeKind_name]
  rfl

/-- The items of a sent vector or matrix. -/
lemma elementsOrNone_eq (h : IsSent data kind) (hkind : kind = .vector ∨ kind = .matrix) :
    Json.elementsOrNone (data.member? "result") = .ok (resultItems data) := by
  have hresult := h.result hkind
  rw [resultItems]
  cases hcontent : data.member? "result" with
  | none => rfl
  | some content =>
    obtain rfl | ⟨items, rfl⟩ := hresult _ hcontent
    · rfl
    · cases items <;> rfl

lemma decode_scalar (h : IsSent data .scalar) :
    decode data = (Sample.ofPair (single data)).map .scalar := by
  rw [decode_eq h, single, decodeContent]
  cases Sample.ofPair _ <;> rfl

lemma decode_string (h : IsSent data .string) :
    decode data = (textOfPair (single data)).map fun read => .string read.1 read.2 := by
  have hread (pair : Json) : decodeContent .string (some pair) =
      (textOfPair pair).map fun read => .string read.1 read.2 := by
    simp only [decodeContent, textOfPair, Option.getD_some]
    cases pairElement pair 0 with
    | error fault => rfl
    | ok first =>
      cases hsecond : pairElement pair 1 <;> cases htime : decodeTime first <;>
        simp [bind, Except.bind, pure, Except.pure, Except.map, htime]
  have hcontent : decodeContent .string (data.member? "result") =
      decodeContent .string (some (single data)) := rfl
  rw [decode_eq h, hcontent, hread]

lemma decode_vector (h : IsSent data .vector) :
    decode data = (((resultItems data).filter hasValue).mapM decodeInstant).map .vector := by
  have hobjects : ∀ item ∈ resultItems data, item.IsObject := fun item hitem =>
    (h.series (.inl rfl) item hitem).isObject
  rw [decode_eq h, decodeContent, elementsOrNone_eq h (.inl rfl)]
  change (decodeVector (resultItems data) >>= fun series => pure (QueryResult.vector series)) = _
  rw [decodeVector_eq_mapM hobjects]
  cases List.mapM decodeInstant _ <;> rfl

lemma decode_matrix (h : IsSent data .matrix) :
    decode data = ((resultItems data).mapM decodeStream).map .matrix := by
  rw [decode_eq h, decodeContent, elementsOrNone_eq h (.inr rfl)]
  change (decodeMatrix (resultItems data) >>= fun series => pure (QueryResult.matrix series)) = _
  rw [decodeMatrix_eq_mapM]
  cases List.mapM decodeStream _ <;> rfl

/-- The results of sent documents. -/
lemma decode_eq_ok_iff (h : IsSent data kind) (result : QueryResult) :
    decode data = .ok result ↔ result.kind = kind ∧ result.IsReadFrom data := by
  -- a scalar and a string are one pair, a vector and a matrix are lists of items
  cases kind with
  | scalar =>
    rw [decode_scalar h, map_eq_ok_iff]
    cases result <;> simp [Sample.ofPair_eq_ok_iff, QueryResult.kind, IsReadFrom]
  | string =>
    rw [decode_string h, map_eq_ok_iff]
    cases result <;> simp [textOfPair_eq_ok_iff, QueryResult.kind, IsReadFrom]
  | vector =>
    have hitems : ∀ item ∈ (resultItems data).filter hasValue, ∀ entry : InstantSeries,
        decodeInstant item = .ok entry ↔ entry.labels.entries = labelEntries item ∧
          ∃ pair, item.member? "value" = some pair ∧ entry.sample.IsReadFrom pair := by
      intro item hitem entry
      obtain ⟨hmem, hvalue⟩ := List.mem_filter.1 hitem
      exact decodeInstant_eq_ok_iff (h.series (.inl rfl) item hmem) hvalue
    rw [decode_vector h, map_eq_ok_iff]
    cases result <;>
      simp [mapM_eq_ok_iff, forall₂_congr_left hitems, QueryResult.kind, IsReadFrom]
  | matrix =>
    have hitems : ∀ item ∈ resultItems data, ∀ stream : Stream,
        decodeStream item = .ok stream ↔ stream.labels.entries = labelEntries item ∧
          List.Forall₂ (fun pair (sample : Sample) => sample.IsReadFrom pair) (valuePairs item)
            stream.samples := fun item hitem stream =>
      decodeStream_eq_ok_iff (h.series (.inr rfl) item hitem) (h.values rfl item hitem)
    rw [decode_matrix h, map_eq_ok_iff]
    cases result <;>
      simp [mapM_eq_ok_iff, forall₂_congr_left hitems, QueryResult.kind, IsReadFrom]

lemma readPair_eq_error_iff (hkind : kind ≠ .string) {fault : Fault} :
    readPair kind pair = .error fault ↔ Sample.ofPair pair = .error fault := by
  cases kind <;> first | exact map_eq_error_iff _ | exact absurd rfl hkind

/-- Items without a value have no pair to be read. -/
lemma flatMap_filter_hasValue (items : List Json) :
    ((items.filter hasValue).flatMap fun item => (item.member? "value").toList) =
      items.flatMap fun item => (item.member? "value").toList := by
  induction items with
  | nil => rfl
  | cons item rest ih =>
    cases hvalue : item.member? "value" with
    | none => simp [hasValue, hvalue, ih]
    | some pair => simp [hasValue, hvalue, ih]

/-- The fault of a sent document is the first among its pairs. -/
lemma decode_eq_error_iff (h : IsSent data kind) (fault : Fault) :
    decode data = .error fault ↔ (pairsOf data kind).mapM (readPair kind) = .error fault := by
  cases kind with
  | scalar =>
    rw [decode_scalar h, map_eq_error_iff, pairsOf, mapM_singleton_eq_error_iff,
      readPair_eq_error_iff (by decide)]
  | string =>
    rw [decode_string h, map_eq_error_iff, pairsOf, mapM_singleton_eq_error_iff, readPair,
      map_eq_error_iff]
  | vector =>
    rw [decode_vector h, map_eq_error_iff, pairsOf, ← flatMap_filter_hasValue]
    -- only items with a value are decoded, each from its one pair
    refine mapM_eq_error_iff_flatMap (fun item hitem fault => ?_) fault
    obtain ⟨hmem, hvalue⟩ := List.mem_filter.1 hitem
    obtain ⟨pair, hpair⟩ := Option.isSome_iff_exists.1 hvalue
    rw [decodeInstant_eq (h.series (.inl rfl) item hmem) hpair, map_eq_error_iff, hpair,
      Option.toList_some, mapM_singleton_eq_error_iff, readPair_eq_error_iff (by decide)]
  | matrix =>
    rw [decode_matrix h, map_eq_error_iff, pairsOf]
    refine mapM_eq_error_iff_flatMap (fun item hitem fault => ?_) fault
    have hread : (valuePairs item).mapM (readPair .matrix) =
        ((valuePairs item).mapM Sample.ofPair).map (List.map fun _ => ()) :=
      mapM_map_result Sample.ofPair (fun _ => ()) (valuePairs item)
    rw [decodeStream_eq (h.series (.inr rfl) item hitem) (h.values rfl item hitem),
      map_eq_error_iff, hread, map_eq_error_iff]

end QueryResult

/-- A document of a known kind with the containers that a backend sends is decoded to just what
stands in it: a series for each item of a matrix, an entry for each item of a vector that has a
value, and a sample for each pair. There is a result if and only if all pairs can be read, and else
the fault is that of the first one that cannot. -/
theorem QueryResult.decode_of_isSent {data : Json} {kind : ResultKind} (h : IsSent data kind) :
    (∀ result, decode data = .ok result ↔ result.kind = kind ∧ result.IsReadFrom data) ∧
    ((∃ result, decode data = .ok result) ↔ ∀ pair ∈ pairsOf data kind, CanBeRead kind pair) ∧
    ∀ fault, decode data = .error fault ↔
      ∃ before pair after, pairsOf data kind = before ++ pair :: after ∧
        (∀ p ∈ before, CanBeRead kind p) ∧ readPair kind pair = .error fault := by
  have herror := decode_eq_error_iff h
  refine ⟨decode_eq_ok_iff h, ?_, fun fault => ?_⟩
  · constructor
    · rintro ⟨result, hresult⟩ pair hpair
      obtain ⟨units, hunits⟩ : ∃ units, (pairsOf data kind).mapM (readPair kind) = .ok units := by
        cases hread : (pairsOf data kind).mapM (readPair kind) with
        | ok units => exact ⟨units, rfl⟩
        | error fault =>
          rw [(herror fault).2 hread] at hresult
          cases hresult
      obtain ⟨u, _, hread⟩ := exists_of_forall₂ (mapM_eq_ok_iff.1 hunits) hpair
      exact readPair_eq_ok_iff.1 ⟨u, hread⟩
    · intro hall
      obtain ⟨units, hunits⟩ := exists_mapM_eq_ok fun pair hpair =>
        readPair_eq_ok_iff.2 (hall pair hpair)
      cases hdecode : decode data with
      | ok result => exact ⟨result, rfl⟩
      | error fault =>
        rw [herror, hunits] at hdecode
        cases hdecode
  · rw [herror, mapM_eq_error_iff]
    simp only [readPair_eq_ok_iff]

/-- Two series, the second without values. -/
def twoStreams : Json :=
  .object [("resultType", .text "matrix"), ("result", .list [
    .object [("metric", .object [("__name__", .text "up"), ("job", .text "api")]),
      ("values", .list [.list [.int 60, .text "1"], .list [.int 120, .text "NaN"]])],
    .object [("metric", .object [("__name__", .text "down")])]])]

/-- They are decoded to a stream with two samples and one without any; all pairs can be read. -/
theorem QueryResult.decode_of_isSent_twoStreams :
    ∃ first second, decode twoStreams = .ok (.matrix [first, second]) ∧
      first.samples = [⟨⟨60000000⟩, .ofInt 1⟩, ⟨⟨120000000⟩, .nan⟩] ∧ second.samples = [] ∧
      (QueryResult.matrix [first, second]).IsReadFrom twoStreams ∧
      ∀ pair ∈ pairsOf twoStreams .matrix, CanBeRead .matrix pair := by
  have hsent : IsSent twoStreams .matrix := by
    have hitems : ∀ item ∈ resultItems twoStreams, item.IsSeries ∧
        ∀ values, item.member? "values" = some values → ∃ pairs, values = .list pairs := by
      refine List.forall_mem_cons.2 ⟨?_, List.forall_mem_singleton.2 ?_⟩
      · exact ⟨⟨⟨_, rfl⟩, fun _ h => ⟨_, (Option.some.inj h).symm, by decide⟩⟩,
          fun _ h => ⟨_, (Option.some.inj h).symm⟩⟩
      · exact ⟨⟨⟨_, rfl⟩, fun _ h => ⟨_, (Option.some.inj h).symm, by decide⟩⟩,
          fun _ h => nomatch h⟩
    exact ⟨rfl, fun _ _ h => .inr ⟨_, (Option.some.inj h).symm⟩,
      fun _ item hitem => (hitems item hitem).1, fun _ item hitem => (hitems item hitem).2⟩
  obtain ⟨hok, hexists, -⟩ := decode_of_isSent hsent
  have hdecode : decode twoStreams = .ok (.matrix [
      ⟨.ofList [(.text "__name__", .text "up"), (.text "job", .text "api")],
        [⟨⟨60000000⟩, .ofInt 1⟩, ⟨⟨120000000⟩, .nan⟩]⟩,
      ⟨.ofList [(.text "__name__", .text "down")], []⟩]) := by
    decide +kernel
  exact ⟨_, _, hdecode, rfl, rfl, ((hok _).1 hdecode).2, hexists.1 ⟨_, hdecode⟩⟩

end RuleFixtures
