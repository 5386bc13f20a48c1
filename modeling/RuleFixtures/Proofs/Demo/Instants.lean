import RuleFixtures.Demo.Server
import RuleFixtures.Proofs.Number.Sum
import RuleFixtures.Proofs.Traversal

/-!
The instants of a range, and when there is an end to them.

The server adds the step to the start again and again, in doubles, until it is past the end. A step
that is not above zero never gets there; a step that is can be too small next to the instant that it
is added to, and then it is lost.

* `Demo.reached` is the instant after a number of steps; `Demo.rank_reached` gives its rank.
* `Demo.instants?_eq_some_iff` and `Demo.instants?_eq_none_iff`: the instants that are listed, and
  the ranges without an end.
* `Demo.Reply.ofPath_range`: the reply to a request for a range of finite numbers.
-/

namespace RuleFixtures.Demo

open Binary64 (roundRank unitLimit)

variable {start finish step : Binary64}

/-! ### Steps -/

/-- The instant after a number of steps. -/
def reached (start step : Binary64) (count : ℕ) : Binary64 :=
  (fun time : Binary64 => time.add step)^[count] start

@[simp] lemma reached_zero (start step : Binary64) : reached start step 0 = start := rfl

lemma reached_succ (start step : Binary64) (count : ℕ) :
    reached start step (count + 1) = (reached start step count).add step :=
  Function.iterate_succ_apply' _ _ _

lemma reached_add (start step : Binary64) (count : ℕ) :
    reached (start.add step) step count = reached start step (count + 1) :=
  (Function.iterate_succ_apply _ _ _).symm

/-- The rank one step after a rank; an infinity stays where it is. -/
def advance (step rank : ℤ) : ℤ := if |rank| < unitLimit then roundRank (rank + step) else rank

lemma advance_mono (step : ℤ) : Monotone (advance step) := by
  intro a b h
  have ha := abs_le.1 (Binary64.abs_roundRank_le (a + step))
  have hb := abs_le.1 (Binary64.abs_roundRank_le (b + step))
  have hround := Binary64.roundRank_mono (Int.add_le_add_right h step)
  rw [advance, advance]
  split <;> split <;> simp only [abs_lt, not_and_or, not_lt] at * <;> omega

/-- A step forward does not lead back, and a step back does not lead forward. -/
lemma le_advance {time : Binary64} (hnan : time.isNaN = false) {step : ℤ} :
    (0 ≤ step → time.rank ≤ advance step time.rank) ∧
      (step ≤ 0 → advance step time.rank ≤ time.rank) := by
  rw [advance]
  split
  · next hlt =>
    have hkept := Binary64.roundRank_rank ((Binary64.abs_rank_lt_iff hnan).1 hlt)
    constructor <;> intro hstep
    · have := Binary64.roundRank_mono (by omega : time.rank ≤ time.rank + step)
      omega
    · have := Binary64.roundRank_mono (by omega : time.rank + step ≤ time.rank)
      omega
  · exact ⟨fun _ => le_refl _, fun _ => le_refl _⟩

lemma rank_add_step {time : Binary64} (htime : time.isNaN = false) (hstep : step.isFinite = true) :
    (time.add step).rank = advance step.rank time.rank ∧ (time.add step).isNaN = false := by
  rw [advance]
  cases hfinite : time.isFinite with
  | true =>
    rw [if_pos ((Binary64.abs_rank_lt_iff htime).2 hfinite)]
    exact Binary64.rank_add hfinite hstep
  | false =>
    rw [if_neg (mt (Binary64.abs_rank_lt_iff htime).1 (by simp [hfinite]))]
    cases time with
    | infinite negative =>
      cases step with
      | finite => exact ⟨rfl, rfl⟩
      | _ => cases hstep
    | nan => cases htime
    | finite => cases hfinite

lemma rank_reached (hstart : start.isNaN = false) (hstep : step.isFinite = true) (count : ℕ) :
    (reached start step count).rank = (advance step.rank)^[count] start.rank ∧
      (reached start step count).isNaN = false := by
  induction count with
  | zero => exact ⟨rfl, hstart⟩
  | succ count ih =>
    rw [reached_succ, Function.iterate_succ_apply', ← ih.1]
    exact rank_add_step ih.2 hstep

lemma rank_reached_succ (hstart : start.isNaN = false) (hstep : step.isFinite = true)
    (count : ℕ) : (reached start step (count + 1)).rank =
      advance step.rank (reached start step count).rank := by
  rw [reached_succ]
  exact (rank_add_step (rank_reached hstart hstep count).2 hstep).1

/-! ### Lists of instants -/

lemma exists_of_instants? {times : List Binary64} (h : instants? start finish step = some times) :
    ∃ count, times = (List.range count).map (reached start step) ∧
      (∀ k < count, (reached start step k).le finish = true) ∧
      (reached start step count).le finish = false := by
  fun_induction instants? start finish step generalizing times with
  | case1 start hle hlt this ih =>
    obtain ⟨rest, hrest, rfl⟩ := Option.map_eq_some_iff.1 h
    obtain ⟨count, rfl, hbelow, habove⟩ := ih hrest
    simp only [reached_add] at hbelow habove
    refine ⟨count + 1, ?_, fun k hk => ?_, habove⟩
    · rw [List.range_succ_eq_map, List.map_cons, List.map_map, reached_zero]
      exact congrArg (start :: ·) (List.map_congr_left fun k _ => reached_add start step k)
    · cases k with
      | zero => exact hle
      | succ k => exact hbelow k (by omega)
  | case2 => cases h
  | case3 start hle hlt hnext =>
    cases h
    refine ⟨1, rfl, fun k hk => ?_, Bool.not_eq_true _ ▸ hnext⟩
    obtain rfl : k = 0 := by omega
    exact hle
  | case4 start hle =>
    cases h
    exact ⟨0, rfl, nofun, Bool.not_eq_true _ ▸ hle⟩

/-- A step that does not lead to a later instant keeps all instants where they are, or before. -/
lemma rank_reached_le (hstart : start.isNaN = false) (hstep : step.isFinite = true)
    (h : advance step.rank start.rank ≤ start.rank) (count : ℕ) :
    (reached start step count).rank ≤ start.rank := by
  rw [(rank_reached hstart hstep count).1]
  exact (advance_mono step.rank).antitone_iterate_of_map_le h (Nat.zero_le count)

lemma not_isNaN_of_le {x y : Binary64} (h : x.le y = true) : y.isNaN = false := by
  cases y with
  | nan => cases x <;> cases h
  | _ => rfl

/-- Where no list is given, all instants are up to the end. -/
lemma le_of_instants?_eq_none (hstart : start.isNaN = false) (hstep : step.isFinite = true)
    (h : instants? start finish step = none) (count : ℕ) :
    (reached start step count).le finish = true := by
  fun_induction instants? start finish step generalizing count with
  | case1 start hle hlt this ih =>
    cases count with
    | zero => exact hle
    | succ count =>
      rw [← reached_add]
      exact ih (rank_add_step hstart hstep).2 (Option.map_eq_none_iff.1 h) count
  | case2 start hle hlt hnext =>
    have hadd := rank_add_step hstart hstep
    rw [Binary64.lt_iff_rank_lt hstart hadd.2, hadd.1, not_lt] at hlt
    have hfinish := not_isNaN_of_le hle
    rw [Binary64.le_iff_rank_le hstart hfinish] at hle
    rw [Binary64.le_iff_rank_le (rank_reached hstart hstep count).2 hfinish]
    exact (rank_reached_le hstart hstep hlt count).trans hle
  | case3 => cases h
  | case4 => cases h

/-- The list holds the instants in front of the first one past the end. -/
theorem instants?_eq_some_iff (hstart : start.isNaN = false) (hstep : step.isFinite = true)
    {times : List Binary64} :
    instants? start finish step = some times ↔
      ∃ count, times = (List.range count).map (reached start step) ∧
        (∀ k < count, (reached start step k).le finish = true) ∧
        (reached start step count).le finish = false := by
  refine ⟨exists_of_instants?, fun ⟨count, htimes, hbelow, habove⟩ => ?_⟩
  cases h : instants? start finish step with
  | none =>
    rw [le_of_instants?_eq_none hstart hstep h count] at habove
    cases habove
  | some others =>
    obtain ⟨count', rfl, hbelow', habove'⟩ := exists_of_instants? h
    -- both counts are the first one past the end
    obtain hlt | rfl | hlt := Nat.lt_trichotomy count count'
    · rw [hbelow' count hlt] at habove
      cases habove
    · rw [htimes]
    · rw [hbelow count' hlt] at habove'
      cases habove'

lemma instants?_eq_none_iff_forall (hstart : start.isNaN = false)
    (hstep : step.isFinite = true) :
    instants? start finish step = none ↔ ∀ count, (reached start step count).le finish = true := by
  refine ⟨le_of_instants?_eq_none hstart hstep, fun h => ?_⟩
  cases hinstants : instants? start finish step with
  | none => rfl
  | some times =>
    obtain ⟨count, -, -, habove⟩ := exists_of_instants? hinstants
    rw [h count] at habove
    cases habove

/-- The step is lost at an instant: the instant after it is the same. -/
def Loses (time step : Binary64) : Prop := (time.add step).numEq time = true

lemma loses_iff {time : Binary64} (htime : time.isNaN = false) (hstep : step.isFinite = true) :
    Loses time step ↔ advance step.rank time.rank = time.rank := by
  obtain ⟨hrank, hnan⟩ := rank_add_step htime hstep
  rw [Loses, Binary64.numEq_iff_rank_eq hnan htime, hrank]

/-- Where no step is lost, each of them leads at least one unit further. -/
lemma add_le_rank_reached (hstart : start.isNaN = false) (hstep : step.isFinite = true)
    (hpositive : 0 < step.rank) (hgains : ∀ count, ¬ Loses (reached start step count) step)
    (count : ℕ) : start.rank + count ≤ (reached start step count).rank := by
  induction count with
  | zero => simp
  | succ count ih =>
    have hnan := (rank_reached hstart hstep count).2
    have hle := (le_advance hnan).1 hpositive.le
    have hne := mt (loses_iff hnan hstep).2 (hgains count)
    rw [rank_reached_succ hstart hstep]
    push_cast
    omega

/-- Steps forward do not lead back. -/
lemma monotone_rank_reached (hstart : start.isNaN = false) (hstep : step.isFinite = true)
    (hpositive : 0 ≤ step.rank) : Monotone fun count => (reached start step count).rank :=
  monotone_nat_of_le_succ fun count => by
    rw [rank_reached_succ hstart hstep]
    exact (le_advance (rank_reached hstart hstep count).2).1 hpositive

/-- Behind an instant at which the step is lost all instants are the same. -/
lemma rank_reached_add (hstart : start.isNaN = false) (hstep : step.isFinite = true) {lost : ℕ}
    (hloses : Loses (reached start step lost) step) (more : ℕ) :
    (reached start step (lost + more)).rank = (reached start step lost).rank := by
  rw [loses_iff (rank_reached hstart hstep lost).2 hstep] at hloses
  induction more with
  | zero => rfl
  | succ more ih => rw [← Nat.add_assoc, rank_reached_succ hstart hstep, ih, hloses]

/-- So none of the instants is later. -/
lemma rank_reached_le_of_loses (hstart : start.isNaN = false) (hstep : step.isFinite = true)
    (hpositive : 0 ≤ step.rank) {lost : ℕ} (hloses : Loses (reached start step lost) step)
    (count : ℕ) : (reached start step count).rank ≤ (reached start step lost).rank := by
  obtain hbefore | hafter := Nat.le_total count lost
  · exact monotone_rank_reached hstart hstep hpositive hbefore
  · obtain ⟨more, rfl⟩ := Nat.exists_eq_add_of_le hafter
    exact (rank_reached_add hstart hstep hloses more).le

/-- There is no end where the start is not past the end, and the step is not above zero or is lost
at one of the instants up to the end. -/
theorem instants?_eq_none_iff (hstart : start.isNaN = false) (hstep : step.isFinite = true) :
    instants? start finish step = none ↔ start.le finish = true ∧
      (step.le (.zero false) = true ∨
        ∃ count, (reached start step count).le finish = true ∧
          Loses (reached start step count) step) := by
  rw [instants?_eq_none_iff_forall hstart hstep]
  have hreached := rank_reached hstart hstep
  have hzero : step.le (.zero false) = true ↔ step.rank ≤ 0 :=
    Binary64.le_iff_rank_le (by cases step <;> first | rfl | cases hstep) rfl
  constructor
  · intro hall
    have hfinish := not_isNaN_of_le (hall 0)
    refine ⟨hall 0, ?_⟩
    by_contra hnone
    obtain ⟨hpositive, hgains⟩ := not_or.1 hnone
    rw [hzero, not_le] at hpositive
    -- more steps than there are units up to the end
    let count := (finish.rank - start.rank + 1).toNat
    have hgrown := add_le_rank_reached hstart hstep hpositive
      (fun count hloses => hgains ⟨count, hall count, hloses⟩) count
    have hle := (Binary64.le_iff_rank_le (hreached count).2 hfinish).1 (hall count)
    have hfirst := (Binary64.le_iff_rank_le hstart hfinish).1 (hall 0)
    omega
  · rintro ⟨hle, hlost⟩ count
    have hfinish := not_isNaN_of_le hle
    rw [Binary64.le_iff_rank_le (hreached count).2 hfinish]
    rw [hzero] at hlost
    -- steps back never pass the end, and where a step is lost the instants stand still
    by_cases hback : step.rank ≤ 0
    · rw [Binary64.le_iff_rank_le hstart hfinish] at hle
      exact (rank_reached_le hstart hstep ((le_advance hstart).2 hback) count).trans hle
    · obtain ⟨lost, hlostLe, hloses⟩ := hlost.resolve_left hback
      rw [Binary64.le_iff_rank_le (hreached lost).2 hfinish] at hlostLe
      exact (rank_reached_le_of_loses hstart hstep (not_le.1 hback).le hloses count).trans hlostLe

/-! ### Replies -/

/-- The value of a series at a finite instant. -/
def valueText (place : ℕ) (time : Binary64) : String :=
  toString ((place : ℤ) * 100 + ((time.floorDiv 60).truncate?.getD 0) % 1000)

lemma sampleValue_eq {time : Binary64} (h : time.isFinite = true) (place : ℕ) :
    sampleValue place time = .ok (valueText place time) := by
  have hquotient := Binary64.isFinite_floorDiv h (d := 60) (by norm_num)
  obtain ⟨minutes, hminutes⟩ : ∃ minutes, (time.floorDiv 60).truncate? = some minutes := by
    cases hfloor : time.floorDiv 60 with
    | finite => exact ⟨_, rfl⟩
    | _ => rw [hfloor] at hquotient; cases hquotient
  simp only [sampleValue, valueText, hminutes, Option.getD_some]

/-- The series of a metric, each with the value at each instant. -/
def listing (metric : String) (times : List Binary64) : Json :=
  result "matrix" ((seriesOf metric).zipIdx.map fun (labels, place) =>
    .object [("metric", labelsJson metric labels),
      ("values", .list (times.map fun time =>
        .list [.float time, .text (valueText place time)]))])

/-- The series of a metric at finite instants. -/
lemma matrix_eq {times : List Binary64} (h : ∀ time ∈ times, time.isFinite = true)
    (metric : String) : matrix metric times = .ok (listing metric times) := by
  have hvalues (place : ℕ) : times.mapM (sample place) =
      .ok (times.map fun time => .list [.float time, .text (valueText place time)]) :=
    mapM_eq_ok_map fun time htime => by
      rw [sample, sampleValue_eq (h time htime)]
      rfl
  rw [matrix, withPlaces, mapM_eq_ok_map (g := fun (labels, place) => Json.object
    [("metric", labelsJson metric labels), ("values", .list (times.map fun time =>
      .list [.float time, .text (valueText place time)]))])]
  · rfl
  · rintro ⟨labels, place⟩ -
    simp only [hvalues]
    rfl

/-- Instants that are listed lie from the start to the end. -/
lemma bounds_of_instants? {times : List Binary64} (h : instants? start finish step = some times) :
    ∀ time ∈ times, start.rank ≤ time.rank ∧ time.le finish = true := by
  fun_induction instants? start finish step generalizing times with
  | case1 start hle hlt this ih =>
    obtain ⟨rest, hrest, rfl⟩ := Option.map_eq_some_iff.1 h
    rw [List.forall_mem_cons]
    refine ⟨⟨le_refl _, hle⟩, fun time htime => ?_⟩
    obtain ⟨hlater, hend⟩ := ih hrest time htime
    exact ⟨(Binary64.rank_lt_of_lt hlt).le.trans hlater, hend⟩
  | case2 => cases h
  | case3 start hle =>
    cases h
    simpa using hle
  | case4 =>
    cases h
    simp

/-- Instants between finite ones are finite. -/
lemma isFinite_of_instants? (hstart : start.isFinite = true) (hfinish : finish.isFinite = true)
    {times : List Binary64} (h : instants? start finish step = some times) :
    ∀ time ∈ times, time.isFinite = true := by
  intro time htime
  obtain ⟨hlow, hle⟩ := bounds_of_instants? h time htime
  have hhigh := Binary64.rank_le_of_le hle
  have hnan : time.isNaN = false := by
    cases time with
    | nan => cases hle
    | _ => rfl
  rw [← Binary64.abs_rank_lt_iff (by cases start <;> first | rfl | cases hstart), abs_lt] at hstart
  rw [← Binary64.abs_rank_lt_iff (by cases finish <;> first | rfl | cases hfinish),
    abs_lt] at hfinish
  rw [← Binary64.abs_rank_lt_iff hnan, abs_lt]
  omega

/-- A reply for a range has the instants that are listed. -/
lemma Reply.ofPath_range_eq {parameters : List (String × String)}
    (hstart : number parameters "start" none = .ok start)
    (hfinish : number parameters "end" none = .ok finish)
    (hstep : number parameters "step" (some "60") = .ok step)
    (hfinite : start.isFinite = true ∧ finish.isFinite = true) :
    Reply.ofPath "/api/v1/query_range" parameters =
      match instants? start finish step with
      | some times => .success (listing ((parameter? parameters "query").getD "") times)
      | none => .endless := by
  rw [Reply.ofPath, if_neg (by decide), if_neg (by decide), if_pos rfl, rangeData?, hstart, hfinish,
    hstep]
  cases h : instants? start finish step with
  | none =>
    simp only [bind, Except.bind, h]
    rfl
  | some times =>
    have hmatrix := matrix_eq (isFinite_of_instants? hfinite.1 hfinite.2 h)
      ((parameter? parameters "query").getD "")
    simp only [bind, Except.bind, h, hmatrix]
    rfl

/-- **Ranges.** A request for a range of finite numbers is replied to with the instants from the
start on that are not past the end, a step apart; there is no reply only where the start is not past
the end, and the step is not above zero or is lost at one of these instants. -/
theorem Reply.ofPath_range {parameters : List (String × String)}
    (hstart : number parameters "start" none = .ok start)
    (hfinish : number parameters "end" none = .ok finish)
    (hstep : number parameters "step" (some "60") = .ok step)
    (hfinite : start.isFinite = true ∧ finish.isFinite = true ∧ step.isFinite = true) :
    (Reply.ofPath "/api/v1/query_range" parameters = .endless ↔
        start.le finish = true ∧ (step.le (.zero false) = true ∨
          ∃ count, (reached start step count).le finish = true ∧
            Loses (reached start step count) step)) ∧
      (Reply.ofPath "/api/v1/query_range" parameters ≠ .endless →
        ∃ count, (∀ k < count, (reached start step k).le finish = true) ∧
          (reached start step count).le finish = false ∧
          Reply.ofPath "/api/v1/query_range" parameters =
            .document 200 (.object [("status", .text "success"),
              ("data", listing ((parameter? parameters "query").getD "")
                ((List.range count).map (reached start step)))])) := by
  have hnan : start.isNaN = false := by cases start <;> first | rfl | cases hfinite.1
  rw [Reply.ofPath_range_eq hstart hfinish hstep ⟨hfinite.1, hfinite.2.1⟩,
    ← instants?_eq_none_iff hnan hfinite.2.2]
  cases h : instants? start finish step with
  | none => exact ⟨by simp, fun hne => absurd rfl hne⟩
  | some times =>
    obtain ⟨count, rfl, hbelow, habove⟩ := exists_of_instants? h
    exact ⟨by simp [Reply.success], fun _ => ⟨count, hbelow, habove, rfl⟩⟩

/-- The parameters of a range for a metric of the server. -/
def rangeOf (start finish step : String) : List (String × String) :=
  [("query", "job:node_cpu:sum"), ("start", start), ("end", finish), ("step", step)]

/-- Five minutes in steps of one have six instants. -/
theorem Reply.ofPath_range_fiveMinutes :
    ∃ start finish step,
      number (rangeOf "0" "300" "60") "start" none = .ok start ∧
      number (rangeOf "0" "300" "60") "end" none = .ok finish ∧
      number (rangeOf "0" "300" "60") "step" (some "60") = .ok step ∧
      (start.isFinite = true ∧ finish.isFinite = true ∧ step.isFinite = true) ∧
      (Reply.ofPath "/api/v1/query_range" (rangeOf "0" "300" "60") = .endless ↔
        start.le finish = true ∧ (step.le (.zero false) = true ∨
          ∃ count, (reached start step count).le finish = true ∧
            Loses (reached start step count) step)) ∧
      (reached start step 5).le finish = true ∧ (reached start step 6).le finish = false :=
  have hstart : number (rangeOf "0" "300" "60") "start" none = .ok (.ofInt 0) := by decide +kernel
  have hfinish : number (rangeOf "0" "300" "60") "end" none = .ok (.ofInt 300) := by decide +kernel
  have hstep : number (rangeOf "0" "300" "60") "step" (some "60") = .ok (.ofInt 60) := by
    decide +kernel
  have hfinite : (Binary64.ofInt 0).isFinite = true ∧ (Binary64.ofInt 300).isFinite = true ∧
      (Binary64.ofInt 60).isFinite = true := by decide +kernel
  ⟨_, _, _, hstart, hfinish, hstep, hfinite,
    (Reply.ofPath_range hstart hfinish hstep hfinite).1, by decide +kernel, by decide +kernel⟩

/-- A tenth, as a double. -/
def tenth : Binary64 := .finite false 7205759403792794 1018 (by decide)

/-- Three tenths, as a double. -/
def threeTenths : Binary64 := .finite false 5404319552844595 1020 (by decide)

/-- A step of zero stands still at the start. And three steps of a tenth, added one by one, are past
the three tenths at which a range ends. -/
theorem Reply.ofPath_range_standing :
    Reply.ofPath "/api/v1/query_range" (rangeOf "0" "0" "0") = .endless ∧
      number (rangeOf "0" "0.3" "0.1") "end" none = .ok threeTenths ∧
      Reply.ofPath "/api/v1/query_range" (rangeOf "0" "0.3" "0.1") =
        .success (listing "job:node_cpu:sum" [.zero false, tenth, tenth.add tenth]) ∧
      threeTenths ∉ [.zero false, tenth, tenth.add tenth] := by
  have hzero (name : String) (default? : Option String)
      (h : parameter? (rangeOf "0" "0" "0") name = some "0") :
      number (rangeOf "0" "0" "0") name default? = .ok (.zero false) := by
    rw [number, h]
    rfl
  -- the parameters are read as doubles first
  have hstart : number (rangeOf "0" "0.3" "0.1") "start" none = .ok (.zero false) := by
    decide +kernel
  have hfinish : number (rangeOf "0" "0.3" "0.1") "end" none = .ok threeTenths := by decide +kernel
  have hstep : number (rangeOf "0" "0.3" "0.1") "step" (some "60") = .ok tenth := by decide +kernel
  have hstanding : instants? (.zero false) (.zero false) (.zero false) = none :=
    (instants?_eq_none_iff rfl rfl).2 ⟨by decide +kernel, .inl (by decide +kernel)⟩
  have htenths : instants? (.zero false) threeTenths tenth =
      some [.zero false, tenth, tenth.add tenth] :=
    (instants?_eq_some_iff rfl rfl).2
      ⟨3, by decide +kernel, by decide +kernel, by decide +kernel⟩
  refine ⟨?_, hfinish, ?_, by decide +kernel⟩
  · rw [Reply.ofPath_range_eq (hzero "start" none rfl) (hzero "end" none rfl)
      (hzero "step" _ rfl) ⟨rfl, rfl⟩, hstanding]
  · rw [Reply.ofPath_range_eq hstart hfinish hstep ⟨rfl, rfl⟩, htenths]
    rfl

end RuleFixtures.Demo
