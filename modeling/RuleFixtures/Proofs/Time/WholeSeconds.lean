import RuleFixtures.Proofs.Number.Whole
import RuleFixtures.Query.Sample

/-!
Instants of whole seconds, and whole minutes around an instant.

* `Instant.seconds_eq` and `Instant.ofSeconds_ofInt`: whole seconds since the start of 1970 are
  exact doubles, and are read back as the same instant up to the end of the year 9999.
* `Instant.exists_minute`: the seconds of an instant, divided by sixty and rounded down, give the
  last whole minute that is not after them.
-/

namespace RuleFixtures

open Binary64 (ofInt unitsOfOne ratioUnits)

/-! ### Years -/

namespace Instant

lemma yearOfEra_le {day : ℕ} (h : day ≤ 146096) :
    (day - day / 1460 + day / 36524 - day / 146096) / 365 ≤ 399 := by
  omega

/-- The last year of an era starts in March, and the days given are those up to December. -/
lemma lt_month_of_last {day : ℕ} (h : day ≤ 146036) :
    (5 * (day - (365 * 399 + 399 / 4 - 399 / 100)) + 2) / 153 < 10 := by
  omega

/-- The seconds up to the end of 9999 lie in a year of the calendar. -/
lemma yearOfSeconds_bounds {n : ℕ} (hn : n < 253402300800) :
    1 ≤ yearOfSeconds n ∧ yearOfSeconds n ≤ 9999 := by
  have hera : 4 ≤ ((n : ℤ) / 86400 + 719468) / 146097 ∧
      ((n : ℤ) / 86400 + 719468) / 146097 ≤ 24 := by omega
  have hday : (((n : ℤ) / 86400 + 719468) % 146097).toNat ≤ 146096 := by omega
  have hlast : ((n : ℤ) / 86400 + 719468) / 146097 = 24 →
      (((n : ℤ) / 86400 + 719468) % 146097).toNat ≤ 146036 := by omega
  simp only [yearOfSeconds, civilOfDays]
  generalize ((n : ℤ) / 86400 + 719468) / 146097 = era at *
  generalize (((n : ℤ) / 86400 + 719468) % 146097).toNat = day at *
  have hyear := yearOfEra_le hday
  have hmonth := fun h => lt_month_of_last (hlast h)
  generalize (day - day / 1460 + day / 36524 - day / 146096) / 365 = year at *
  -- only the last year of the last era could be one too many
  rcases Nat.lt_or_ge year 399 with hless | hmore
  · constructor <;> split <;> omega
  · obtain rfl : year = 399 := by omega
    by_cases h : era = 24
    · rw [if_pos (hmonth h), if_neg (by omega)]
      omega
    · constructor <;> split <;> omega

/-! ### Whole seconds -/

variable {n : ℕ}

lemma ofQuotient_mul {den : ℕ} (hden : 0 < den) (hn : n < 2 ^ 53) :
    Binary64.ofQuotient ((n * den : ℕ) : ℤ) den = ofInt n := by
  rw [Binary64.ofQuotient, decide_eq_false (by omega), Int.natAbs_natCast,
    Binary64.ofRatio_mul_eq_ofInt hden hn]

/-- The seconds of an instant of whole seconds. -/
lemma seconds_eq (hn : n < 2 ^ 53) : seconds ⟨(n * 1000000 : ℕ)⟩ = ofInt n :=
  ofQuotient_mul (by norm_num) hn

/-- Seconds without a fraction need no rounding. -/
lemma ofSeconds_eq_ofParts {seconds : Binary64} {whole : ℤ}
    (hwhole : seconds.truncate? = some whole)
    (hfraction : (((seconds.splitFraction?.map Prod.fst).getD default).mul
      (ofInt 1000000)).roundToInt? = some 0) (hlow : 0 ≤ whole) (hhigh : whole < secondsLimit) :
    ofSeconds seconds = ofParts whole 0 := by
  delta ofSeconds
  split
  · cases hwhole
  · cases hwhole
  · -- the parts of the number are made opaque, so that no step evaluates them
    extract_lets parts fraction micros
    have hparts : parts = whole := by
      simp only [parts, hwhole, Option.getD_some]
    have hmicros : micros = 0 := by
      simp only [micros, fraction, hfraction, Option.getD_some]
    clear_value parts micros
    subst hparts hmicros
    have hnegative : ¬ parts < -secondsLimit := by
      have : secondsLimit = 9223372036854775808 := rfl
      omega
    simp [hnegative, not_le.2 hhigh]

/-- Whole seconds are read as the instant that they stand for. -/
theorem ofSeconds_ofInt (hn : n < 253402300800) :
    ofSeconds (ofInt n) = .ok ⟨(n * 1000000 : ℕ)⟩ := by
  have hlimit : n < 2 ^ 53 := by omega
  obtain ⟨hfirst, hlast⟩ := yearOfSeconds_bounds hn
  have htruncate := Binary64.truncate?_ofInt hlimit
  have hunits := Binary64.units?_ofInt hlimit
  have hfraction : ((((ofInt n).splitFraction?.map Prod.fst).getD default).mul
      (ofInt 1000000)).roundToInt? = some 0 := by
    have hzero : ((Binary64.ofRatio false 0 unitsOfOne).mul (ofInt 1000000)).roundToInt? =
        some 0 := by
      decide +kernel
    rw [Binary64.splitFraction?, hunits]
    simp only [Option.map_some, Option.getD_some, Nat.mul_mod_left, hzero]
  have hparts : ofParts n 0 = .ok ⟨(n * 1000000 : ℕ)⟩ := by
    have hcalendar : calendarYears (yearOfSeconds n) = true := by
      simp only [calendarYears, Bool.and_eq_true, decide_eq_true_eq]
      omega
    rw [ofParts]
    simp only [hcalendar, Bool.not_true, Bool.false_eq_true, if_false]
    rw [if_neg (by simp only [Bool.or_eq_true, decide_eq_true_eq]; omega)]
    have hmicros : (n : ℤ) * 1000000 + 0 = (n * 1000000 : ℕ) := by
      push_cast
      ring
    rw [hmicros]
  rw [ofSeconds_eq_ofParts htruncate hfraction (by omega) (by rw [secondsLimit]; omega), hparts]

/-! ### Whole minutes -/

/-- The minute is the last whole one that is not after a number of seconds. -/
structure IsLastMinute (minute : ℕ) (seconds : Binary64) : Prop where
  le : (ofInt ((minute * 60 : ℕ) : ℤ)).le seconds = true
  lt : seconds.lt (ofInt (((minute + 1) * 60 : ℕ) : ℤ)) = true

lemma units?_seconds {t : Instant} (hleast : 0 ≤ t.micros)
    (hmost : t.micros < 2 ^ 53 * 1000000) :
    t.seconds.units? = some (false, ratioUnits t.micros.toNat 1000000) := by
  have hscale : Binary64.ratioScale t.micros.toNat 1000000 ≤ Binary64.unitScale :=
    Binary64.ratioScale_le (by norm_num) (by omega)
  have hnum : t.micros.natAbs = t.micros.toNat := by omega
  rw [seconds, Binary64.ofQuotient, decide_eq_false (by omega), hnum,
    Binary64.units?_ofRatio false _ (by norm_num) (lt_of_le_of_lt hscale (by decide)), ratioUnits]

lemma ratioUnits_mul {den : ℕ} (hden : 0 < den) (hn : n < 2 ^ 53) :
    ratioUnits (n * den) den = n * unitsOfOne := by
  have hscale := Binary64.ratioScale_le hden (Nat.mul_lt_mul_of_pos_right hn hden)
  have hunits := Binary64.units?_ofRatio false (n * den) hden
    (lt_of_le_of_lt hscale (by decide))
  rw [Binary64.units?_ofRatio_mul false hden hn] at hunits
  exact (Prod.mk.inj (Option.some.inj hunits)).2.symm

/-- The seconds of an instant between two whole minutes, divided by sixty and rounded down, are the
number of the last whole minute that is not after them. -/
theorem exists_minute {t : Instant} {first last : ℕ}
    (hfirst : ((first * 60 * 1000000 : ℕ) : ℤ) ≤ t.micros)
    (hlast : t.micros ≤ (last * 60 * 1000000 : ℕ)) (hlimit : (last + 1) * 60 < 2 ^ 53) :
    ∃ minute, first ≤ minute ∧ minute ≤ last ∧ t.seconds.floorDiv 60 = ofInt minute ∧
      IsLastMinute minute t.seconds := by
  have hunits := units?_seconds (t := t) (by omega) (by omega)
  -- rounding the seconds keeps them between the minutes
  have hle : first * 60 * unitsOfOne ≤ ratioUnits t.micros.toNat 1000000 := by
    rw [← ratioUnits_mul (by norm_num : 0 < 1000000) (by omega : first * 60 < 2 ^ 53)]
    exact Binary64.ratioUnits_mono (by norm_num) (by omega)
  have hge : ratioUnits t.micros.toNat 1000000 ≤ last * 60 * unitsOfOne := by
    rw [← ratioUnits_mul (by norm_num : 0 < 1000000) (by omega : last * 60 < 2 ^ 53)]
    exact Binary64.ratioUnits_mono (by norm_num) (by omega)
  generalize ratioUnits t.micros.toNat 1000000 = units at hunits hle hge
  -- the minute is the quotient of the exact units of the rounded seconds
  have hpos : 0 < unitsOfOne * 60 := Nat.mul_pos Binary64.unitsOfOne_pos (by norm_num)
  have hsmall : units < 2 ^ 53 * unitsOfOne :=
    hge.trans_lt (Nat.mul_lt_mul_of_pos_right (by omega) Binary64.unitsOfOne_pos)
  have hlow : units / (unitsOfOne * 60) * 60 * unitsOfOne ≤ units := by
    calc units / (unitsOfOne * 60) * 60 * unitsOfOne
        = unitsOfOne * 60 * (units / (unitsOfOne * 60)) := by ring
      _ ≤ units := Nat.mul_div_le _ _
  have hhigh : units < (units / (unitsOfOne * 60) + 1) * 60 * unitsOfOne := by
    calc units < unitsOfOne * 60 * (units / (unitsOfOne * 60) + 1) := Nat.lt_mul_div_succ _ hpos
      _ = (units / (unitsOfOne * 60) + 1) * 60 * unitsOfOne := by ring
  have hfirstLe : first ≤ units / (unitsOfOne * 60) := by
    rw [Nat.le_div_iff_mul_le hpos]
    calc first * (unitsOfOne * 60) = first * 60 * unitsOfOne := by ring
      _ ≤ units := hle
  have hlastLe : units / (unitsOfOne * 60) ≤ last := by
    refine Nat.div_le_of_le_mul ?_
    calc units ≤ last * 60 * unitsOfOne := hge
      _ = unitsOfOne * 60 * last := by ring
  have hquotient := Binary64.floorDiv_eq hunits (by norm_num : 0 < 60) hsmall
  generalize units / (unitsOfOne * 60) = minute at *
  -- comparing doubles is comparing their units
  obtain ⟨_, _, _, hfinite, hrank⟩ := Binary64.exists_eq_finite hunits
  have hnan : t.seconds.isNaN = false := by rw [hfinite]; rfl
  have hseconds : t.seconds.rank = (units : ℕ) := by rw [hfinite, ← hrank]; rfl
  refine ⟨minute, hfirstLe, hlastLe, hquotient, ?_, ?_⟩
  · rw [Binary64.le_iff_rank_le (Binary64.isNaN_ofInt (by omega)) hnan,
      Binary64.rank_ofInt (by omega), hseconds]
    exact Int.ofNat_le.2 hlow
  · rw [Binary64.lt_iff_rank_lt hnan (Binary64.isNaN_ofInt (by omega)),
      Binary64.rank_ofInt (by omega), hseconds]
    exact Int.ofNat_lt.2 hhigh

end Instant

end RuleFixtures
