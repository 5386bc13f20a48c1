import RuleFixtures.Proofs.Demo.Exchange
import RuleFixtures.Proofs.Fixtures.InputRows
import RuleFixtures.Proofs.Fixtures.LatestSamples
import RuleFixtures.Proofs.Fixtures.SpacedSamples

/-!
Fixtures from what the server has recorded.

The server rounds the instant of a query down to a minute, and the client, the server and the
generator hand whole minutes on to each other, as texts and as doubles, without an error. So every
step of a window has its value.

* `Demo.onGrid_minuteSamples`: the samples at the minutes of a window lie on its grid.
* `Demo.IsFullRow` holds of rows without a gap up to the value at the alignment, and
  `Demo.exists_gives_rule` finds the fixture of a rule with such rows.
* `Demo.all_complete`: a run against the server is complete.
-/

namespace RuleFixtures.Demo

open Binary64 (ofInt)

variable {minute count : ℕ} {metric : String}

/-! ### Samples at minutes -/

lemma areTexts_seriesLabels {labels : List (String × String)} (h : labels ∈ seriesOf metric) :
    (seriesLabels metric labels).AreTexts := by
  let texts : TextLabels := ⟨("__name__", metric) :: labels, nodup_labels h⟩
  refine ⟨texts, ?_⟩
  rw [seriesLabels, ← OrderedMap.ofList_entries (Labels.ofTexts texts)]
  congr 1
  simp [Labels.ofTexts, texts]

/-- The minutes after a start are its steps. -/
lemma ofMinute_afterSteps (k : ℕ) :
    (Instant.ofMinute minute).afterSteps (.ofMinutes 1) k = .ofMinute (minute + k) := by
  have hmicros : ((Instant.ofMinute minute).afterSteps (.ofMinutes 1) k).micros =
      (Instant.ofMinute (minute + k)).micros := by
    rw [Instant.afterSteps_micros, Instant.ofMinute_micros, Instant.ofMinute_micros,
      Duration.ofMinutes_micros]
    push_cast
    ring
  exact Instant.eq_of_le_of_ge hmicros.le hmicros.ge

/-- The start of a window of minutes. -/
lemma ofMinute_minus (h : count ≤ minute) :
    (Instant.ofMinute minute).minus (.ofMinutes count) = .ofMinute (minute - count) := by
  have hmicros : ((Instant.ofMinute minute).minus (.ofMinutes count)).micros =
      (Instant.ofMinute (minute - count)).micros := by
    rw [Instant.minus, Instant.ofMinute_micros, Instant.ofMinute_micros, Duration.ofMinutes_micros]
    push_cast [h]
    ring
  exact Instant.eq_of_le_of_ge hmicros.le hmicros.ge

lemma isRepresentable_ofMinute (hminute : minute * 60 < 253402300800) :
    (Instant.ofMinute minute).isRepresentable := by
  rw [Instant.isRepresentable_iff, Instant.ofMinute_micros]
  omega

lemma minutesBefore_succ (minute count : ℕ) :
    minutesBefore minute (count + 1) = (List.range (count + 1)).map (minute - count + ·) := by
  rw [minutesBefore, Nat.add_sub_add_right]

/-- The samples of a series at the minutes of a window, one for each step. -/
lemma minuteSamples_eq (place minute count : ℕ) :
    minuteSamples place (minutesBefore minute (count + 1)) =
      (List.range (count + 1)).map fun k =>
        ⟨(Instant.ofMinute (minute - count)).afterSteps (.ofMinutes 1) k,
          ofInt (countOf place (minute - count + k))⟩ := by
  rw [minuteSamples, minutesBefore_succ, List.map_map]
  refine List.map_congr_left fun k _ => ?_
  rw [ofMinute_afterSteps, Function.comp_apply]

/-- They lie on the grid of the window. -/
lemma onGrid_minuteSamples (h : count ≤ minute) (labels : Labels) (place : ℕ) :
    Stream.OnGrid (.ofMinute (minute - count)) (.ofMinute minute) (.ofMinutes 1)
      ⟨labels, minuteSamples place (minutesBefore minute (count + 1))⟩ := by
  have hstep : (Duration.ofMinutes 1).micros = 60000000 := Duration.ofMinutes_micros 1
  rw [minuteSamples_eq]
  constructor
  · rw [List.map_map]
    refine List.Nodup.map (fun j k hsame => ?_) List.nodup_range
    have hmicros := congrArg Instant.micros hsame
    simp only [Function.comp_apply, Instant.afterSteps_micros, hstep] at hmicros
    omega
  · intro sample hsample
    obtain ⟨k, hk, rfl⟩ := List.mem_map.1 hsample
    rw [List.mem_range] at hk
    refine ⟨?_, k, rfl⟩
    simp only [Instant.afterSteps_micros, hstep, Instant.ofMinute_micros]
    omega

/-! ### Streams at minutes -/

lemma mem_minuteStreams {minutes : List ℕ} {stream : Stream} :
    stream ∈ minuteStreams metric minutes ↔ ∃ labels place,
      (labels, place) ∈ (seriesOf metric).zipIdx ∧
        ⟨seriesLabels metric labels, minuteSamples place minutes⟩ = stream := by
  rw [minuteStreams, List.mem_map, Prod.exists]

lemma areTexts_of_mem_minuteStreams {minutes : List ℕ} {stream : Stream}
    (h : stream ∈ minuteStreams metric minutes) : stream.labels.AreTexts := by
  obtain ⟨labels, place, hlabels, rfl⟩ := mem_minuteStreams.1 h
  exact areTexts_seriesLabels (List.fst_mem_of_mem_zipIdx hlabels)

lemma le_of_mem_minuteSamples {place : ℕ} {sample : Sample}
    (h : sample ∈ minuteSamples place (minutesBefore minute (count + 1)))
    (hcount : count ≤ minute) : sample.time.micros ≤ (Instant.ofMinute minute).micros :=
  ((onGrid_minuteSamples hcount .empty place).2 sample h).1

/-- The recorded series of a rule are aligned at the last of their minutes. -/
lemma exists_ownAnswer (g : Generator) {name : String} (hseries : seriesOf name ≠ [])
    (hcount : count ≤ minute) :
    ∃ expected, g.ownAnswer (.text name)
      (.matrix (minuteStreams name (minutesBefore minute (count + 1)))) =
        .ok (expected, .ofMinute minute) := by
  have hordered : ∀ stream ∈ minuteStreams name (minutesBefore minute (count + 1)),
      stream.IsOrdered := by
    intro stream hstream
    obtain ⟨labels, place, -, rfl⟩ := mem_minuteStreams.1 hstream
    rw [Stream.IsOrdered, minuteSamples_eq, List.pairwise_map]
    refine List.pairwise_lt_range.imp fun hlt => ?_
    simp only [Instant.afterSteps_micros, Duration.ofMinutes_micros]
    omega
  -- every series of the rule ends at the minute
  have hlast (place : ℕ) : ⟨.ofMinute minute, ofInt (countOf place minute)⟩ ∈
      minuteSamples place (minutesBefore minute (count + 1)) := by
    refine List.mem_map.2 ⟨minute, ?_, rfl⟩
    rw [minutesBefore_succ]
    exact List.mem_map.2 ⟨count, by simp, by omega⟩
  obtain ⟨⟨labels, place⟩, hplace⟩ := List.exists_mem_of_ne_nil (seriesOf name).zipIdx (by
    simpa using hseries)
  have hstream : (⟨seriesLabels name labels, minuteSamples place _⟩ : Stream) ∈
      minuteStreams name (minutesBefore minute (count + 1)) :=
    mem_minuteStreams.2 ⟨labels, place, hplace, rfl⟩
  obtain ⟨expected, alignment, hanswer, howns⟩ := g.exists_isOwnValue (.text name)
    (fun stream h => areTexts_of_mem_minuteStreams h) hordered
    ⟨_, hstream, List.ne_nil_of_mem (hlast place)⟩
  -- the alignment is the time of one of the samples, none of which is later than the minute
  have halignment : alignment = .ofMinute minute := by
    obtain ⟨stream, htaken, sample, hsample, rfl⟩ := howns.taken
    obtain ⟨labels, place, -, rfl⟩ := mem_minuteStreams.1 htaken
    exact Instant.eq_of_le_of_ge (le_of_mem_minuteSamples hsample hcount)
      (howns.le_alignment _ hstream _ (hlast _))
  exact ⟨expected, by rw [hanswer, halignment]⟩

/-! ### Rows -/

/-- A row of the server's values: six of them, none missing, and the last the value that the server
has for the series of the row at an instant. -/
structure IsFullRow (row : InputSeries) (alignment : Instant) : Prop where
  length : row.tokens.length = 6
  present : missingValue ∉ row.tokens
  last : ∃ metric labels place value, (labels, place) ∈ (seriesOf metric).zipIdx ∧
    (Labels.ofJson (labelsJson metric labels)).bind Labels.key = .ok row.series ∧
    sampleValue place alignment.seconds = .ok value ∧ row.tokens.getLast? = some value

/-- The slots of a window of minutes hold the values of a series at these minutes. -/
lemma map_slotText_minuteSamples (hcount : count ≤ minute)
    (hlimit : (Duration.ofMinutes count).micros < 2 ^ 53) (place : ℕ) :
    (List.range (count + 1)).map (slotText ((Instant.ofMinute minute).minus (.ofMinutes count))
        (.ofMinutes 1) (minuteSamples place (minutesBefore minute (count + 1)))) =
      (List.range (count + 1)).map fun k =>
        SampleText.write (ofInt (countOf place (minute - count + k))) := by
  have hgrid := onGrid_minuteSamples hcount .empty place
  rw [← ofMinute_minus hcount] at hgrid
  refine List.map_congr_left fun k hk => ?_
  have hsample : (⟨((Instant.ofMinute minute).minus (.ofMinutes count)).afterSteps (.ofMinutes 1) k,
      ofInt (countOf place (minute - count + k))⟩ : Sample) ∈
        minuteSamples place (minutesBefore minute (count + 1)) := by
    rw [minuteSamples_eq, ofMinute_minus hcount]
    exact List.mem_map.2 ⟨k, hk, rfl⟩
  have hslot := slotText_of_mem hlimit (by decide) hgrid hsample rfl
  dsimp only at hslot
  rw [hslot]

/-- A row with the values of a series at six minutes is full. -/
lemma isFullRow_of_tokens {row : InputSeries} {labels : List (String × String)} {place : ℕ}
    (hminute : minute * 60 < 253402300800) (hfirst : 5 ≤ minute)
    (hplace : (labels, place) ∈ (seriesOf metric).zipIdx)
    (hkey : (seriesLabels metric labels).key = .ok row.series)
    (htokens : row.tokens = (List.range 6).map fun k =>
      SampleText.write (ofInt (countOf place (minute - 5 + k)))) :
    IsFullRow row (.ofMinute minute) where
  length := by rw [htokens, List.length_map, List.length_range]
  present := by
    rw [htokens, List.mem_map]
    rintro ⟨k, -, hmissing⟩
    exact SampleText.write_ne_missingValue _ hmissing
  last := by
    have hcount : countOf place minute < 10 ^ 15 := by
      have hplaces := (List.mem_zipIdx hplace).2.1
      have hlength := length_seriesOf_le metric
      rw [countOf]
      omega
    have hseconds : (Instant.ofMinute minute).seconds = secondsOf minute :=
      Instant.seconds_eq (by omega)
    refine ⟨metric, labels, place, toString (countOf place minute : ℤ), hplace, hkey, ?_, ?_⟩
    · rw [hseconds, sampleValue_secondsOf (by omega)]
    · have hlast : minute - 5 + 5 = minute := by omega
      rw [htokens, List.getLast?_map, List.getLast?_range, if_neg (by norm_num), Option.map_some,
        hlast, SampleText.write_ofInt hcount]

/-! ### Fixtures -/

section Rules

variable [Platform]

/-- A rule whose name is a metric of the server, and which reads metrics of the server, has a
fixture with full rows. -/
lemma exists_gives_rule (client : Client) {catalog : RuleCatalog} {name : String}
    {queries : List String} {now : Instant}
    (hmetrics : ({ catalog } : Generator).ruleMetrics (.text name) = .ok queries)
    (hqueries : ∀ query ∈ queries, query ≠ "" ∧ query.length ≤ 100)
    (hown : rangeSelector? (({ catalog } : Generator).ownQuery (.text name)) = some (name, 5))
    (hshort : (({ catalog } : Generator).ownQuery (.text name)).length ≤ 100)
    (hseries : seriesOf name ≠ []) (htime : now.seconds.floorDiv 60 = ofInt minute)
    (hminute : minute * 60 < 253402300800) (hfirst : 5 ≤ minute) :
    ∃ fixture, ∃ keys : List String,
      (({ catalog } : Generator).rule (client.gateway transport) (.text name) now).Gives
        client.Reaches fixture ∧
      fixture.test.expr = .text name ∧
      (({ catalog } : Generator).ownValue (client.gateway transport) (.text name) now).Gives
        client.Reaches (fixture.test.expected, .ofMinute minute) ∧
      fixture.inputSeries.map InputSeries.series = keys.map .text ∧ keys.Pairwise (· < ·) ∧
      (∀ key, key ∈ keys ↔
        ∃ stream ∈ queries.flatMap (minuteStreams · (minutesBefore minute 6)),
          stream.key = .ok (.text key)) ∧
      ∀ row ∈ fixture.inputSeries, IsFullRow row (.ofMinute minute) := by
  -- the window: five minutes in steps of one, which start at a minute that can be written
  have hlength : 0 ≤ (Duration.ofMinutes 5).micros ∧ (Duration.ofMinutes 5).micros < 2 ^ 53 := by
    decide
  have hstep : 0 < (Duration.ofMinutes 1).micros := by decide
  have hlookback : (Instant.ofMinute minute).minus (.ofMinutes 5) = .ofMinute (minute - 5) :=
    ofMinute_minus hfirst
  have hstart : ((Instant.ofMinute minute).minus (.ofMinutes 5)).isRepresentable := by
    rw [hlookback]
    exact isRepresentable_ofMinute (by omega)
  -- the two kinds of requests: the rule's own value, and the history of each metric
  obtain ⟨expected, hexpected⟩ := exists_ownAnswer { catalog } hseries (by omega : 4 ≤ minute)
  have hfound : ((client.gateway transport).query (({ catalog } : Generator).ownQuery (.text name))
      now).Gives client.Reaches (.matrix (minuteStreams name (minutesBefore minute 5))) :=
    gives_query_minutes hown hshort htime hminute (by omega)
  have hanswers (query : String) (hquery : query ∈ queries) :
      ((client.gateway transport).queryRange query ((Instant.ofMinute minute).minus (.ofMinutes 5))
        (.ofMinute minute) (.ofMinutes 1)).Gives client.Reaches
          (.matrix (minuteStreams query (minutesBefore minute 6))) := by
    rw [hlookback]
    obtain ⟨hne, hfits⟩ := hqueries query hquery
    exact gives_queryRange_minutes hne hfits hminute hfirst
  -- all labels are texts, so that every series has a key and the rows can be made
  have htexts : ∀ stream ∈ queries.flatMap (minuteStreams · (minutesBefore minute 6)),
      stream.labels.AreTexts :=
    List.forall_mem_flatMap.2 fun query _ stream h => areTexts_of_mem_minuteStreams h
  obtain ⟨history, hcollected, hrule⟩ := Generator.gives_rule
    (fun event session h => reaches_of_record h event)
    { catalog } hmetrics hfound hexpected hstart hanswers fun query hquery stream h =>
      (htexts stream (List.mem_flatMap_of_mem hquery h)).exists_key
  -- the rows: six slots each, in the order of the keys
  have hslots : ({ catalog } : Generator).slots = .ok 6 :=
    Generator.slots_eq { catalog } hlength.1 hlength.2 hstep
  obtain ⟨rows, keys, hrows, hkeys, hsorted, hmem, htokens⟩ :=
    Generator.exists_inputRows { catalog } hstep.ne' hslots (by decide) hstart hcollected htexts
  refine ⟨_, keys, hrule rows hrows, rfl, Generator.gives_ownValue { catalog } hfound hexpected,
    hkeys, hsorted, hmem, fun row hrow => ?_⟩
  -- a row holds the samples of the first series with its key, one in each slot
  obtain ⟨first, hfirstWith, hslotTexts⟩ := htokens row hrow
  obtain ⟨query, -, hstream⟩ := List.mem_flatMap.1 (mem_of_firstWith hfirstWith)
  have hkey := key_of_firstWith hfirstWith
  obtain ⟨labels, place, hplace, rfl⟩ := mem_minuteStreams.1 hstream
  refine isFullRow_of_tokens hminute hfirst hplace hkey ?_
  rw [hslotTexts]
  exact map_slotText_minuteSamples hfirst hlength.2 place

/-! ### All rules -/

/-- The rules of the server, by kind and name. -/
def ruleCatalog : RuleCatalog where
  alerting := ⟨[(.text "NodeCPUHigh", [⟨.text "NodeCPUHigh", .text "job:node_cpu:sum > 0.9",
    .alerting, .ofList [(.text "severity", .text "warning")], .text "node.rules"⟩])], by decide⟩
  recording := ⟨[
    (.text "instance:node_cpu:rate1m", [⟨.text "instance:node_cpu:rate1m",
      .text "rate(node_cpu_seconds_total\x7bmode!=\"idle\"\x7d[1m])", .recording, .empty,
      .text "node.rules"⟩]),
    (.text "job:node_cpu:sum", [⟨.text "job:node_cpu:sum",
      .text "sum by (job) (instance:node_cpu:rate1m)", .recording, .empty,
      .text "node.rules"⟩])], by decide⟩

/-- They are loaded from what the server lists. -/
lemma gives_load (client : Client) :
    (RuleCatalog.load (client.gateway transport)).Gives client.Reaches ruleCatalog := by
  have hcatalog : (RuleGroup.decodeAll rulesData).bind RuleCatalog.ofGroups = .ok ruleCatalog := by
    decide +kernel
  obtain ⟨groups, hgroups, hfiled⟩ := bind_eq_ok_iff.1 hcatalog
  refine (gives_ruleGroups hgroups).bind (Act.Gives.bind (.ofExcept ?_)
    ((Act.Gives.log (fun event session h => reaches_of_record h event) _).bind (.pure _)))
  rw [hfiled]
  rfl

/-- The series of the metric that is scraped, in the order of their keys. -/
def scrapedKeys : List String :=
  ["node_cpu_seconds_total\x7binstance=\"node-1\", job=\"node\", mode=\"user\"\x7d",
    "node_cpu_seconds_total\x7binstance=\"node-2\", job=\"node\", mode=\"user\"\x7d"]

omit [Platform] in
lemma key_scraped (minutes : List ℕ) (key : String) :
    (∃ stream ∈ minuteStreams "node_cpu_seconds_total" minutes, stream.key = .ok (.text key)) ↔
      key ∈ scrapedKeys := by
  have hfirst : (seriesLabels "node_cpu_seconds_total" (onNode "node-1")).key = .ok (.text
      "node_cpu_seconds_total\x7binstance=\"node-1\", job=\"node\", mode=\"user\"\x7d") := by cbv
  have hsecond : (seriesLabels "node_cpu_seconds_total" (onNode "node-2")).key = .ok (.text
      "node_cpu_seconds_total\x7binstance=\"node-2\", job=\"node\", mode=\"user\"\x7d") := by cbv
  have hseries : minuteStreams "node_cpu_seconds_total" minutes =
      [⟨seriesLabels "node_cpu_seconds_total" (onNode "node-1"), minuteSamples 0 minutes⟩,
        ⟨seriesLabels "node_cpu_seconds_total" (onNode "node-2"), minuteSamples 1 minutes⟩] := rfl
  rw [hseries]
  simp [Stream.key, hfirst, hsecond, scrapedKeys, eq_comm]

/-- A run with the settings of default at an instant in a minute. -/
lemma exists_gives_all (client : Client) {now : Instant}
    (htime : now.seconds.floorDiv 60 = ofInt minute) (hminute : minute * 60 < 253402300800)
    (hfirst : 5 ≤ minute) :
    ∃ fixtures,
      (({ catalog := ruleCatalog } : Generator).all (client.gateway transport) (fun _ => true)
        now).Gives client.Reaches fixtures ∧
      fixtures.map (fun fixture => fixture.test.expr) =
        [.text "instance:node_cpu:rate1m", .text "job:node_cpu:sum"] ∧
      fixtures.map (fun fixture => fixture.inputSeries.map InputSeries.series) =
        [scrapedKeys.map .text, []] ∧
      ∀ fixture ∈ fixtures,
        (({ catalog := ruleCatalog } : Generator).ownValue (client.gateway transport)
          fixture.test.expr now).Gives client.Reaches
            (fixture.test.expected, .ofMinute minute) ∧
        ∀ row ∈ fixture.inputSeries, IsFullRow row (.ofMinute minute) := by
  have hrate : ({ catalog := ruleCatalog } : Generator).ruleMetrics
      (.text "instance:node_cpu:rate1m") = .ok ["node_cpu_seconds_total"] := by decide +kernel
  have hsum : ({ catalog := ruleCatalog } : Generator).ruleMetrics
      (.text "job:node_cpu:sum") = .ok [] := by decide +kernel
  obtain ⟨rate, keys, hrule, hexpr, hvalue, hseries, hsorted, hkeys, hrows⟩ :=
    exists_gives_rule client hrate (by decide) (by decide +kernel) (by decide +kernel) (by decide)
      htime hminute hfirst
  obtain ⟨total, noKeys, hrule', hexpr', hvalue', hseries', -, hkeys', hrows'⟩ :=
    exists_gives_rule client hsum (by decide) (by decide +kernel) (by decide +kernel) (by decide)
      htime hminute hfirst
  -- sorted keys with the same members are the same
  obtain rfl : keys = scrapedKeys := by
    refine hsorted.eq_of_mem_iff (by decide) fun key => ?_
    rw [hkeys, List.flatMap_singleton, key_scraped]
  obtain rfl : noKeys = [] := by
    refine List.eq_nil_iff_forall_not_mem.2 fun key hkey => ?_
    simpa using (hkeys' key).1 hkey
  have hnames : RuleCatalog.sortedNames ruleCatalog.recording =
      .ok [.text "instance:node_cpu:rate1m", .text "job:node_cpu:sum"] := by cbv
  refine ⟨[rate, total], Generator.gives_all _ hnames ?_, ?_, ?_, ?_⟩
  · rw [List.filter_true]
    exact .cons hrule (.cons hrule' .nil)
  · rw [List.map_cons, List.map_singleton, hexpr, hexpr']
  · rw [List.map_cons, List.map_singleton, hseries, hseries', List.map_nil]
  · rw [List.forall_mem_cons, List.forall_mem_singleton, hexpr, hexpr']
    exact ⟨⟨hvalue, hrows⟩, hvalue', hrows'⟩

/-- From the eleventh minute of 1970 to the end of 9998, a run with the settings of default against
the server comes to a fixture for each of its recording rules. All are aligned at the last whole
minute that is not after the instant that is sent, and their rows have six values each, none of them
missing, up to the value that the server has for the series at the alignment. -/
theorem all_complete {client : Client} {session : Session Unit} (hreaches : client.Reaches session)
    {now : Instant} (hfirst : 600000000 ≤ now.micros) (hlast : now.micros < 253370764800000000) :
    ∃ catalog loaded fixtures minute,
      RuleCatalog.load (client.gateway transport) session = (.ok catalog, loaded) ∧
      (({ catalog } : Generator).all (client.gateway transport) (fun _ => true) now loaded).1 =
        .ok fixtures ∧
      Instant.IsLastMinute minute now.seconds ∧
      fixtures.map (fun fixture => fixture.test.expr) =
        [.text "instance:node_cpu:rate1m", .text "job:node_cpu:sum"] ∧
      fixtures.map (fun fixture => fixture.inputSeries.map InputSeries.series) =
        [scrapedKeys.map .text, []] ∧
      ∀ fixture ∈ fixtures,
        (({ catalog } : Generator).ownValue (client.gateway transport) fixture.test.expr now
          loaded).1 = .ok (fixture.test.expected, .ofMinute minute) ∧
        ∀ row ∈ fixture.inputSeries, IsFullRow row (.ofMinute minute) := by
  obtain ⟨minute, hlow, hhigh, hfloor, hminute⟩ := Instant.exists_minute
    (show ((10 * 60 * 1000000 : ℕ) : ℤ) ≤ now.micros from hfirst)
    (show now.micros ≤ ((4222846080 * 60 * 1000000 : ℕ) : ℤ) from hlast.le) (by norm_num)
  obtain ⟨hload, hloaded⟩ := gives_load client session hreaches
  rcases hrun : RuleCatalog.load (client.gateway transport) session with ⟨result, loaded⟩
  rw [hrun] at hload hloaded
  obtain rfl : result = .ok ruleCatalog := hload
  obtain ⟨fixtures, hall, hexprs, hseries, hfixtures⟩ :=
    exists_gives_all client hfloor (by omega) (by omega)
  refine ⟨ruleCatalog, loaded, fixtures, minute, rfl, (hall loaded hloaded).1, hminute, hexprs,
    hseries, fun fixture hfixture => ?_⟩
  obtain ⟨hvalue, hrows⟩ := hfixtures fixture hfixture
  exact ⟨(hvalue loaded hloaded).1, hrows⟩

end Rules

/-- The bounds are ten minutes after the start of 1970 and the start of 9999. -/
example : Instant.iso ⟨600000000⟩ = "1970-01-01T00:10:00+00:00" ∧
    Instant.iso ⟨253370764800000000⟩ = "9999-01-01T00:00:00+00:00" := by
  decide +kernel

/-- A client of a server on this machine, without a token. -/
def localClient : Client := ⟨{ url := "http://127.0.0.1:9090" }, Client.defaultUserAgent⟩

/-- A session without files. -/
def emptySession : Session Unit := { files := .empty, backend := () }

lemma localClient_reaches : localClient.Reaches emptySession where
  address operation := by
    have htargets : ∀ path ∈ ["/api/v1/rules", "/api/v1/query", "/api/v1/query_range"],
        Client.target ("http://127.0.0.1:9090" ++ path) none =
            .ok ⟨"http", "", "127.0.0.1", some 9090, path, none, none⟩ ∧
          WebAddress.checkParts ⟨"http", "", "127.0.0.1", some 9090, path, none, none⟩ =
            .ok ⟨"http", "", "127.0.0.1", some 9090, path, none, none⟩ := by decide +kernel
    have hbase : String.ofList (localClient.config.url.toList.reverse.dropWhile (· = '/')).reverse =
        "http://127.0.0.1:9090" := by decide +kernel
    obtain ⟨htarget, hparts⟩ := htargets operation.path (by
      cases operation <;> simp [Operation.path])
    refine ⟨⟨"http", "", "127.0.0.1", some 9090, operation.path, none, none⟩, ?_, rfl, rfl, hparts⟩
    rwa [Client.url, hbase]
  token _ h := nomatch h

/-- In the last microsecond of 9998 the seconds that are sent are rounded up to the start of 9999,
and the run is complete all the same. -/
theorem all_complete_endOfYear :
    localClient.Reaches emptySession ∧
      ∃ catalog loaded fixtures minute,
        RuleCatalog.load (localClient.gateway transport) emptySession = (.ok catalog, loaded) ∧
        (({ catalog } : Generator).all (localClient.gateway transport) (fun _ => true)
          ⟨253370764799999999⟩ loaded).1 = .ok fixtures ∧
        Instant.IsLastMinute minute (Instant.seconds ⟨253370764799999999⟩) ∧
        (Instant.seconds ⟨253370764799999999⟩) = ofInt 253370764800 ∧
        fixtures.map (fun fixture => fixture.inputSeries.map InputSeries.series) =
          [scrapedKeys.map .text, []] ∧
        ∀ fixture ∈ fixtures, ∀ row ∈ fixture.inputSeries, IsFullRow row (.ofMinute minute) := by
  have hlow : 600000000 ≤ (⟨253370764799999999⟩ : Instant).micros := by decide
  have hhigh : (⟨253370764799999999⟩ : Instant).micros < 253370764800000000 := by decide
  obtain ⟨catalog, loaded, fixtures, minute, hload, hall, hminute, -, hseries, hfixtures⟩ :=
    all_complete localClient_reaches hlow hhigh
  exact ⟨localClient_reaches, catalog, loaded, fixtures, minute, hload, hall, hminute,
    by decide +kernel, hseries, fun fixture hfixture => (hfixtures fixture hfixture).2⟩

end RuleFixtures.Demo
