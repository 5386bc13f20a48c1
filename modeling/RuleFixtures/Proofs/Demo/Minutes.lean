import RuleFixtures.Proofs.Demo.Instants
import RuleFixtures.Proofs.Fixtures.SampleReading
import RuleFixtures.Proofs.Json.Written
import RuleFixtures.Proofs.Query.Decoding
import RuleFixtures.Proofs.Time.WholeSeconds

/-!
What the server has at whole minutes.

Whole minutes are exact as seconds, so the server goes from one to the next without an error, and
what it writes is read back as the same instants with the same values.

* `Demo.minutesUpTo_secondsOf` and `Demo.instants?_secondsOf`: the minutes that are listed for a
  query with brackets and for a range.
* `Demo.decode_listing`: the series that are listed at minutes are decoded to `Demo.minuteStreams`.
* `Demo.Reply.ofPath_query_minutes` and `Demo.Reply.ofPath_range_minutes`: the replies to queries,
  from the texts of their parameters.
-/

namespace RuleFixtures

open Binary64 (ofInt unitsOfOne)

/-! ### Numbers in texts -/

namespace Binary64

/-- A natural number is read back as its double. -/
lemma read?_toString {n : ℕ} (hn : n < 2 ^ 53) : read? (toString (n : ℤ)) = some (ofInt n) := by
  rw [read?_of_numeral (numeral_toString n), readPlain?_toString, decide_eq_false (by omega),
    Int.natAbs_natCast]
  rcases Nat.eq_zero_or_pos n with rfl | hpos
  · decide +kernel
  · rw [ofDecimal_zero false hpos.ne' (hn.trans (by norm_num)),
      ← ofRatio_mul_eq_ofInt Nat.one_pos hn, Nat.mul_one]

/-- The text of a double is read back. -/
lemma read?_text (x : Binary64) : read? x.text = some x := by
  have hnumeral : Numeral x.text.toList := by
    rw [text, String.toList_ofList]
    exact numeral_textList x
  rw [read?_of_numeral hnumeral, text, String.toList_ofList, readPlain?_textList]

lemma text_ne_empty (x : Binary64) : x.text ≠ "" := by
  intro hempty
  have hread := read?_text x
  rw [hempty] at hread
  revert hread
  simp [show read? "" = none by decide]

end Binary64

/-- A natural number that is not too large is written with its digits. -/
lemma SampleText.write_ofInt {n : ℕ} (hn : n < 10 ^ 15) : write (ofInt n) = toString (n : ℤ) := by
  have hlimit : n < 2 ^ 53 := hn.trans (by norm_num)
  obtain ⟨mantissa, scale, canonical, hfinite, hunits⟩ :=
    Binary64.exists_eq_finite (Binary64.units?_ofInt hlimit)
  rw [hfinite, write_whole false canonical hunits, if_pos hn]
  rfl

/-! ### Minutes -/

/-- The instant of a whole minute since the start of 1970. -/
def Instant.ofMinute (minute : ℕ) : Instant := ⟨(minute * 60 * 1000000 : ℕ)⟩

lemma Instant.ofMinute_micros (minute : ℕ) : (ofMinute minute).micros = minute * 60000000 := by
  rw [ofMinute]
  push_cast
  ring

lemma Duration.ofMinutes_micros (n : ℤ) : (ofMinutes n).micros = n * 60000000 := by
  rw [ofMinutes, ofSeconds]
  ring

namespace Demo

variable {minute count : ℕ}

/-- The seconds of a minute, as a double. -/
def secondsOf (minute : ℕ) : Binary64 := ofInt ((minute * 60 : ℕ) : ℤ)

/-- The minutes up to one, in order. -/
def minutesBefore (minute count : ℕ) : List ℕ :=
  (List.range count).map fun k => minute + 1 - count + k

lemma le_of_mem_minutesBefore (hcount : count ≤ minute + 1) {earlier : ℕ}
    (h : earlier ∈ minutesBefore minute count) : earlier ≤ minute := by
  obtain ⟨k, hk, rfl⟩ := List.mem_map.1 h
  rw [List.mem_range] at hk
  omega

/-- What a series has counted at a minute. -/
def countOf (place minute : ℕ) : ℕ := place * 100 + minute % 1000

lemma valueText_secondsOf (hminute : minute * 60 < 2 ^ 53) (place : ℕ) :
    valueText place (secondsOf minute) = toString (countOf place minute : ℤ) := by
  have hquotient : (secondsOf minute).floorDiv 60 = ofInt minute := by
    rw [secondsOf, Binary64.floorDiv_eq (Binary64.units?_ofInt hminute) (by norm_num)
      (Nat.mul_lt_mul_of_pos_right hminute Binary64.unitsOfOne_pos), Nat.mul_assoc,
      Nat.mul_comm 60, Nat.mul_div_cancel _ (Nat.mul_pos Binary64.unitsOfOne_pos (by norm_num))]
  rw [valueText, hquotient, Binary64.truncate?_ofInt (by omega), countOf]
  simp

lemma sampleValue_secondsOf (hminute : minute * 60 < 2 ^ 53) (place : ℕ) :
    sampleValue place (secondsOf minute) = .ok (toString (countOf place minute : ℤ)) := by
  have hfinite : (secondsOf minute).isFinite = true := by
    obtain ⟨_, _, _, hfinite, -⟩ := Binary64.exists_eq_finite (Binary64.units?_ofInt hminute)
    rw [secondsOf, hfinite]
    rfl
  rw [sampleValue_eq hfinite, valueText_secondsOf hminute]

/-- The minutes that are listed for an instant query. -/
lemma minutesUpTo_secondsOf (hminute : minute * 60 < 2 ^ 53) (hcount : count ≤ minute + 1) :
    minutesUpTo (secondsOf minute) count = (minutesBefore minute count).map secondsOf := by
  have hback (back : ℕ) (hle : back ≤ minute) :
      (secondsOf minute).sub (ofInt (60 * back : ℕ)) = secondsOf (minute - back) := by
    rw [secondsOf, Binary64.sub_ofInt hminute (by omega), secondsOf, Nat.sub_mul, Nat.mul_comm 60]
  refine List.ext_getElem (by simp [minutesUpTo, minutesBefore]) fun k hk _ => ?_
  rw [minutesUpTo, List.length_reverse, List.length_map, List.length_range] at hk
  simp only [minutesUpTo, minutesBefore, List.getElem_reverse, List.getElem_map, List.getElem_range,
    List.length_map, List.length_range]
  have hplace : minute - (count - 1 - k) = minute + 1 - count + k := by omega
  rw [← hplace, ← hback _ (by omega), Nat.cast_mul]
  rfl

/-- So many steps of a minute lead so many minutes further. -/
lemma reached_secondsOf (hminute : (minute + count) * 60 < 2 ^ 53) :
    reached (secondsOf minute) (ofInt (60 : ℕ)) count = secondsOf (minute + count) := by
  induction count with
  | zero => rw [reached_zero, Nat.add_zero]
  | succ count ih =>
    have hnext : (minute + count) * 60 + 60 = (minute + (count + 1)) * 60 := by ring
    rw [reached_succ, ih (by omega), secondsOf, Binary64.add_ofInt (by omega), hnext, secondsOf]

/-- The instants of a range between whole minutes. -/
lemma instants?_secondsOf (hminute : minute * 60 < 2 ^ 52) (hcount : count ≤ minute) :
    instants? (secondsOf (minute - count)) (secondsOf minute) (ofInt (60 : ℕ)) =
      some ((minutesBefore minute (count + 1)).map secondsOf) := by
  have hreached (k : ℕ) (hk : k ≤ count + 1) :
      reached (secondsOf (minute - count)) (ofInt (60 : ℕ)) k = secondsOf (minute - count + k) :=
    reached_secondsOf (by omega)
  have hle (k : ℕ) (hk : k ≤ count + 1) :
      (reached (secondsOf (minute - count)) (ofInt (60 : ℕ)) k).le (secondsOf minute) = true ↔
        k ≤ count := by
    rw [hreached k hk, secondsOf, secondsOf, Binary64.le_ofInt_iff (by omega) (by omega)]
    omega
  have hnan : (secondsOf (minute - count)).isNaN = false := Binary64.isNaN_ofInt (by omega)
  have hstep : (ofInt (60 : ℕ)).isFinite = true := by decide +kernel
  refine (instants?_eq_some_iff hnan hstep).2
    ⟨count + 1, ?_, fun k hk => (hle k hk.le).2 (by omega), ?_⟩
  · rw [minutesBefore, List.map_map]
    refine List.map_congr_left fun k hk => ?_
    rw [List.mem_range] at hk
    have hplace : minute + 1 - (count + 1) + k = minute - count + k := by omega
    rw [hreached k hk.le, Function.comp_apply, hplace]
  · rw [← Bool.not_eq_true, hle (count + 1) le_rfl]
    omega

/-! ### Series -/

/-- The labels of a series. -/
def seriesLabels (metric : String) (labels : List (String × String)) : Labels :=
  OrderedMap.ofList ((("__name__", Json.text metric) ::
    labels.map fun (name, value) => (name, Json.text value)).map
      fun (name, value) => (.text name, value))

/-- The samples of a series at minutes. -/
def minuteSamples (place : ℕ) (minutes : List ℕ) : List Sample :=
  minutes.map fun minute => ⟨.ofMinute minute, ofInt (countOf place minute)⟩

/-- The series of a metric at minutes. -/
def minuteStreams (metric : String) (minutes : List ℕ) : List Stream :=
  (seriesOf metric).zipIdx.map fun (labels, place) =>
    ⟨seriesLabels metric labels, minuteSamples place minutes⟩

lemma mem_metrics_of_mem_seriesOf {metric : String} {labels : List (String × String)}
    (h : labels ∈ seriesOf metric) : ∃ entry ∈ metrics, labels ∈ entry.2 := by
  rw [seriesOf] at h
  cases hfind : metrics.find? fun entry => entry.1 = metric with
  | none =>
    rw [hfind] at h
    cases h
  | some entry =>
    rw [hfind] at h
    exact ⟨entry, List.mem_of_find?_eq_some hfind, h⟩

/-- A series has each label once. -/
lemma nodup_labels {metric : String} {labels : List (String × String)}
    (h : labels ∈ seriesOf metric) : ("__name__" :: labels.map Prod.fst).Nodup := by
  obtain ⟨entry, hentry, hlabels⟩ := mem_metrics_of_mem_seriesOf h
  have hall : ∀ entry ∈ metrics, ∀ labels ∈ entry.2,
      ("__name__" :: labels.map Prod.fst).Nodup := by decide
  exact hall entry hentry labels hlabels

lemma length_seriesOf_le (metric : String) : (seriesOf metric).length ≤ 1000 := by
  rw [seriesOf]
  cases hfind : metrics.find? fun entry => entry.1 = metric with
  | none => simp
  | some entry =>
    have hall : ∀ entry ∈ metrics, entry.2.length ≤ 1000 := by decide
    exact hall entry (List.mem_of_find?_eq_some hfind)

/-- What the server lists can be read back from its text. -/
lemma isPlain_listing (metric : String) (times : List Binary64) :
    (listing metric times).isPlain = true := by
  have hlabels {labels : List (String × String)} (h : labels ∈ seriesOf metric) :
      (labelsJson metric labels).isPlain = true := by
    rw [labelsJson, Json.isPlain, Json.isPlainMembers_iff]
    refine ⟨?_, ?_⟩
    · have hnames := nodup_labels h
      rwa [List.map_cons, List.map_map]
    · rw [List.forall_mem_cons, List.forall_mem_map]
      exact ⟨rfl, fun _ _ => rfl⟩
  have hvalues (place : ℕ) : (Json.list (times.map fun time =>
      .list [.float time, .text (valueText place time)])).isPlain = true := by
    rw [Json.isPlain, Json.isPlainAll_iff]
    simp [Json.isPlain, Json.isPlainAll]
  have hseries : Json.isPlainAll ((seriesOf metric).zipIdx.map fun (labels, place) =>
      .object [("metric", labelsJson metric labels), ("values", .list (times.map fun time =>
        .list [.float time, .text (valueText place time)]))]) = true := by
    rw [Json.isPlainAll_iff, List.forall_mem_map]
    rintro ⟨labels, place⟩ hmem
    have hknown : labels ∈ seriesOf metric := List.fst_mem_of_mem_zipIdx hmem
    rw [Json.isPlain, Json.isPlainMembers_iff]
    simp [hlabels hknown, hvalues]
  rw [listing, result, Json.isPlain, Json.isPlainMembers_iff]
  simp [Json.isPlain, hseries]

/-- What the server lists is not nested deep. -/
lemma depth_listing_le (metric : String) (times : List Binary64) :
    (listing metric times).depth ≤ 5 := by
  have hlabels (labels : List (String × String)) : (labelsJson metric labels).depth ≤ 1 := by
    rw [labelsJson, Json.depth, Nat.add_le_add_iff_right, Json.depthMembers_le_iff,
      List.forall_mem_cons, List.forall_mem_map]
    exact ⟨le_rfl, fun _ _ => le_rfl⟩
  have hvalues (place : ℕ) : (Json.list (times.map fun time =>
      .list [.float time, .text (valueText place time)])).depth ≤ 2 := by
    rw [Json.depth, Nat.add_le_add_iff_right, Json.depthAll_le_iff, List.forall_mem_map]
    simp [Json.depth, Json.depthAll]
  have hseries : Json.depthAll ((seriesOf metric).zipIdx.map fun (labels, place) =>
      .object [("metric", labelsJson metric labels), ("values", .list (times.map fun time =>
        .list [.float time, .text (valueText place time)]))]) ≤ 3 := by
    rw [Json.depthAll_le_iff, List.forall_mem_map]
    rintro ⟨labels, place⟩ -
    rw [Json.depth, Nat.add_le_add_iff_right, Json.depthMembers_le_iff, List.forall_mem_cons,
      List.forall_mem_singleton]
    exact ⟨(hlabels labels).trans (by norm_num), hvalues place⟩
  rw [listing, result, Json.depth, Nat.add_le_add_iff_right, Json.depthMembers_le_iff,
    List.forall_mem_cons, List.forall_mem_singleton]
  exact ⟨Nat.zero_le _, Nat.add_le_add_right hseries 1⟩

/-- The pair of a minute and a value is read as a sample. -/
lemma ofPair_minute (hminute : minute * 60 < 253402300800) (place : ℕ) (hplace : place < 1000) :
    Sample.ofPair (.list [.float (secondsOf minute), .text (valueText place (secondsOf minute))]) =
      .ok ⟨.ofMinute minute, ofInt (countOf place minute)⟩ := by
  have hcount : countOf place minute < 2 ^ 53 := by
    have := Nat.mod_lt minute (by norm_num : 1000 > 0)
    rw [countOf]
    omega
  have htime : Instant.ofSeconds (secondsOf minute) = .ok (.ofMinute minute) :=
    Instant.ofSeconds_ofInt hminute
  refine Sample.ofPair_eq_ok_iff.2 ⟨⟨_, _, rfl, rfl, htime⟩, _, rfl, ?_⟩
  rw [valueText_secondsOf (by omega), Json.toDouble, Binary64.read?_toString hcount]

/-- The items of a matrix are decoded one after the other. -/
lemma decode_matrix (items : List Json) :
    QueryResult.decode (result "matrix" items) =
      (items.mapM QueryResult.decodeStream).map .matrix := by
  have hcontent : QueryResult.decode (result "matrix" items) =
      (QueryResult.decodeMatrix items).map .matrix := by
    cases items with
    | nil => rfl
    | cons item rest =>
      change (QueryResult.decodeMatrix (item :: rest) >>= fun streams =>
        pure (QueryResult.matrix streams)) = _
      cases QueryResult.decodeMatrix (item :: rest) <;> rfl
  rw [hcontent, QueryResult.decodeMatrix_eq_mapM]

/-- The series that the server lists at minutes are decoded. -/
theorem decode_listing {metric : String} {minutes : List ℕ}
    (hminutes : ∀ minute ∈ minutes, minute * 60 < 253402300800) :
    QueryResult.decode (listing metric (minutes.map secondsOf)) =
      .ok (.matrix (minuteStreams metric minutes)) := by
  have hstream (labels : List (String × String)) (place : ℕ) (hplace : place < 1000) :
      QueryResult.decodeStream (.object [("metric", labelsJson metric labels),
        ("values", .list ((minutes.map secondsOf).map fun time =>
          .list [.float time, .text (valueText place time)]))]) =
      .ok ⟨seriesLabels metric labels, minuteSamples place minutes⟩ := by
    -- sample by sample, then series by series
    have hsamples : QueryResult.decodeSamples ((minutes.map secondsOf).map fun time =>
        .list [.float time, .text (valueText place time)]) = .ok (minuteSamples place minutes) := by
      rw [QueryResult.decodeSamples_eq_mapM, mapM_eq_ok_iff, minuteSamples, List.map_map,
        List.forall₂_map_left_iff, List.forall₂_map_right_iff, List.forall₂_same]
      exact fun minute hminute => ofPair_minute (hminutes minute hminute) place hplace
    change (QueryResult.decodeSamples _ >>= fun samples => pure (⟨_, samples⟩ : Stream)) = _
    rw [hsamples]
    rfl
  have hstreams : ((seriesOf metric).zipIdx.map fun (labels, place) =>
      .object [("metric", labelsJson metric labels),
        ("values", .list ((minutes.map secondsOf).map fun time =>
          .list [.float time, .text (valueText place time)]))]).mapM QueryResult.decodeStream =
      .ok (minuteStreams metric minutes) := by
    rw [mapM_eq_ok_iff, minuteStreams, List.forall₂_map_left_iff, List.forall₂_map_right_iff,
      List.forall₂_same]
    rintro ⟨labels, place⟩ hseries
    have hplace := (List.mem_zipIdx hseries).2.1
    have hlength := length_seriesOf_le metric
    exact hstream labels place (by omega)
  rw [listing, decode_matrix, hstreams]
  rfl

/-! ### Replies -/

/-- A number is read from the parameter that it was written to. -/
lemma number_of_text {pairs : List (String × String)} {name : String} {x : Binary64}
    (h : parameter? pairs name = some x.text) (default? : Option String) :
    number pairs name default? = .ok x := by
  rw [number, h, Option.some_or]
  simp only [Json.toDouble, Binary64.read?_text]

lemma isFinite_secondsOf (hminute : minute * 60 < 2 ^ 53) : (secondsOf minute).isFinite = true := by
  obtain ⟨_, _, _, hfinite, -⟩ := Binary64.exists_eq_finite (Binary64.units?_ofInt hminute)
  rw [secondsOf, hfinite]
  rfl

/-- The reply to a query at an instant in a minute, for the values of some minutes before. -/
lemma Reply.ofPath_query_minutes {expr metric : String} {time : Binary64}
    (hexpr : rangeSelector? expr = some (metric, count)) (htime : time.floorDiv 60 = ofInt minute)
    (hminute : minute * 60 < 2 ^ 53) (hcount : count ≤ minute + 1) :
    ofPath "/api/v1/query" [("query", expr), ("time", time.text)] =
      success (listing metric ((minutesBefore minute count).map secondsOf)) := by
  have hne : expr ≠ "" := by
    rintro rfl
    cases hexpr
  have hquery : parameter? [("query", expr), ("time", time.text)] "query" = some expr := by
    simp [parameter?, hne]
  have hnumber : number [("query", expr), ("time", time.text)] "time" (some "0") = .ok time :=
    number_of_text (by simp [parameter?, Binary64.text_ne_empty]) _
  -- the server rounds the time down to its minute
  have hrounded : (time.floorDiv 60).mul (ofInt 60) = secondsOf minute := by
    rw [htime]
    exact Binary64.mul_ofInt (by omega) (by norm_num) hminute
  have hfinite : ∀ time ∈ (minutesBefore minute count).map secondsOf, time.isFinite = true := by
    rw [List.forall_mem_map]
    intro earlier hearlier
    have hle := le_of_mem_minutesBefore hcount hearlier
    exact isFinite_secondsOf (by omega)
  have hdata : instantData [("query", expr), ("time", time.text)] =
      .ok (listing metric ((minutesBefore minute count).map secondsOf)) := by
    rw [instantData, hnumber, hquery]
    simp only [bind, Except.bind, hrounded, Option.getD_some, hexpr]
    rw [minutesUpTo_secondsOf hminute hcount, matrix_eq hfinite]
    rfl
  rw [ofPath, if_neg (by decide), if_pos rfl, hdata]

/-- The reply to a query over a range, from the texts of its numbers. -/
lemma Reply.ofPath_range_texts {metric : String} (hmetric : metric ≠ "")
    {start finish step : Binary64} (hfinite : start.isFinite = true ∧ finish.isFinite = true) :
    ofPath "/api/v1/query_range" [("query", metric), ("start", start.text),
        ("end", finish.text), ("step", step.text)] =
      match instants? start finish step with
      | some times => .success (listing metric times)
      | none => .endless := by
  have hstart : parameter? [("query", metric), ("start", start.text), ("end", finish.text),
      ("step", step.text)] "start" = some start.text := by
    simp [parameter?, Binary64.text_ne_empty]
  have hfinish : parameter? [("query", metric), ("start", start.text), ("end", finish.text),
      ("step", step.text)] "end" = some finish.text := by
    simp [parameter?, Binary64.text_ne_empty]
  have hstep : parameter? [("query", metric), ("start", start.text), ("end", finish.text),
      ("step", step.text)] "step" = some step.text := by
    simp [parameter?, Binary64.text_ne_empty]
  rw [ofPath_range_eq (number_of_text hstart _) (number_of_text hfinish _)
    (number_of_text hstep _) hfinite]
  cases instants? start finish step <;> simp [parameter?, hmetric]

/-- The reply to a query over a range between whole minutes, minute by minute. -/
lemma Reply.ofPath_range_minutes {metric : String} (hmetric : metric ≠ "")
    (hminute : minute * 60 < 2 ^ 52) (hcount : count ≤ minute) :
    ofPath "/api/v1/query_range" [("query", metric), ("start", (secondsOf (minute - count)).text),
        ("end", (secondsOf minute).text), ("step", (ofInt (60 : ℕ)).text)] =
      success (listing metric ((minutesBefore minute (count + 1)).map secondsOf)) := by
  rw [ofPath_range_texts hmetric ⟨isFinite_secondsOf (by omega), isFinite_secondsOf (by omega)⟩,
    instants?_secondsOf hminute hcount]

end Demo

end RuleFixtures
