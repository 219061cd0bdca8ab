import Colonnade.Time.Date

/-!
# Days by their numbers

A day has a number, and the number has a day: `Date.ofDayNumber?` finds the date that
`Date.dayNumber` counted (`ofDayNumber?_dayNumber`). Three facts of the calendar carry this.

* A year begins where the year before it ends (`firstDay_succ`), so the first days of the
  years increase, and a day lies in one year only (`eq_of_mem_year`).
* The year that is estimated from the mean length of a year is off by one at most, so that
  `yearOf` finds the year of every day (`mem_year_yearOf`).
* A month begins where the month before it ends (`daysBefore_succ`), so counting on from
  January finds the month and the day in it (`monthAndDay_daysBefore`).
-/

namespace Colonnade

namespace Calendar

/-! ### The year of a day -/

theorem firstDay_succ (year : Int) : firstDay (year + 1) = firstDay year + yearLength year := by
  simp only [firstDay, yearLength, isLeap, Bool.and_eq_true, Bool.or_eq_true, beq_iff_eq,
    bne_iff_ne]
  split <;> omega

theorem firstDay_mono {y z : Int} (h : y ≤ z) : firstDay y ≤ firstDay z := by
  simp only [firstDay]
  omega

/-- A day lies in one year only. -/
theorem eq_of_mem_year {day y z : Int} (hy : firstDay y ≤ day) (hy' : day < firstDay (y + 1))
    (hz : firstDay z ≤ day) (hz' : day < firstDay (z + 1)) : y = z := by
  rcases Int.lt_trichotomy y z with hlt | heq | hgt
  · have hle : firstDay (y + 1) ≤ firstDay z := firstDay_mono hlt
    omega
  · exact heq
  · have hle : firstDay (z + 1) ≤ firstDay y := firstDay_mono hgt
    omega

/-- The first day of a year is the mean length of a year, times the years since the start of
the count, up to a few days. -/
theorem firstDay_bounds (year : Int) :
    146097 * (year - 1970) - 507 ≤ 400 * firstDay year ∧
      400 * firstDay year < 146097 * (year - 1970) + 589 := by
  simp only [firstDay]
  omega

/-- **Every day lies in its year.** -/
theorem mem_year_yearOf (day : Int) :
    firstDay (yearOf day) ≤ day ∧ day < firstDay (yearOf day + 1) := by
  simp only [yearOf]
  generalize hestimate : day * 400 / 146097 + 1970 = estimate
  have hbefore := firstDay_bounds (estimate - 1)
  have hafter := firstDay_bounds (estimate + 1 + 1)
  -- the estimate is at most one year too late, and at most one year too early
  have hlow : firstDay (estimate - 1) ≤ day := by omega
  have hhigh : day < firstDay (estimate + 1 + 1) := by omega
  split
  · rw [Int.sub_add_cancel]
    exact ⟨hlow, by assumption⟩
  · split <;> omega

/-! ### The month of a day -/

theorem daysBefore_one (year : Int) : daysBefore year 1 = 0 := rfl

theorem daysBefore_succ (year : Int) (m : Nat) :
    daysBefore year (m + 2) = daysBefore year (m + 1) + monthLength year (m + 1) := by
  have hsum (k : Nat) : daysBefore year (k + 1) =
      ((List.range k).map fun i => monthLength year (i + 1)).sum := by
    simp [daysBefore, List.sum, List.foldr_map]
  simp [hsum, List.range_succ]

/-- The months of a year make up the year. -/
theorem daysBefore_thirteen (year : Int) : daysBefore year 13 = yearLength year := by
  cases h : isLeap year <;>
    simp [daysBefore, List.range, List.range.loop, monthLength, yearLength, h]

theorem daysBefore_mono (year : Int) {m n : Nat} (h : m ≤ n) :
    daysBefore year (m + 1) ≤ daysBefore year (n + 1) := by
  induction h with
  | refl => exact Nat.le_refl _
  | step _ ih =>
    rw [daysBefore_succ]
    omega

/-- **Counting on from January** passes over the days of `k` months. -/
theorem monthAndDay_daysBefore (year : Int) {k fuel d : Nat} (hd : 1 ≤ d) :
    monthAndDay year (fuel + k) 1 (daysBefore year (k + 1) + d) =
      monthAndDay year fuel (k + 1) d := by
  induction k generalizing fuel d with
  | zero => rw [daysBefore_one, Nat.zero_add, Nat.add_zero]
  | succ k ih =>
    -- one month less, with the days of that month on top
    rw [daysBefore_succ, Nat.add_assoc, ← Nat.add_assoc fuel, Nat.add_right_comm fuel k 1,
      ih (by omega), monthAndDay, if_neg (by omega), Nat.add_sub_cancel_left]

end Calendar

namespace Date

open Calendar

variable (d : Date)

/-- The place of a date in its year lies in that year. -/
theorem ordinal_bounds : 1 ≤ d.ordinal ∧ d.ordinal ≤ yearLength d.year := by
  obtain ⟨-, ⟨hfirst, hlast⟩, hpos, hday⟩ := d.valid
  obtain ⟨m, hm⟩ : ∃ m, d.month = m + 1 := ⟨d.month - 1, by omega⟩
  have hnext := daysBefore_succ d.year m
  have hend : daysBefore d.year (m + 2) ≤ daysBefore d.year 13 := daysBefore_mono d.year (by omega)
  rw [daysBefore_thirteen] at hend
  rw [hm] at hday
  rw [ordinal, hm]
  omega

theorem ofOrdinal?_ordinal : ofOrdinal? d.year d.ordinal = some d := by
  have hbounds := d.ordinal_bounds
  obtain ⟨-, ⟨hfirst, hlast⟩, hpos, hday⟩ := d.valid
  obtain ⟨m, hm⟩ : ∃ m, d.month = m + 1 := ⟨d.month - 1, by omega⟩
  have hfound : monthAndDay d.year 12 1 d.ordinal = (d.month, d.day) := by
    have hfuel : 12 = (11 - m + 1) + m := by omega
    rw [ordinal, hm, hfuel, monthAndDay_daysBefore _ hpos, monthAndDay, if_pos (hm ▸ hday)]
  rw [ofOrdinal?, if_pos hbounds, hfound]
  simp only [ofYMD?, dif_pos d.valid]

theorem dayNumber_mem_year :
    firstDay d.year ≤ d.dayNumber ∧ d.dayNumber < firstDay (d.year + 1) := by
  have hbounds := d.ordinal_bounds
  rw [firstDay_succ, dayNumber]
  omega

theorem yearOf_dayNumber : yearOf d.dayNumber = d.year := by
  obtain ⟨hlow, hhigh⟩ := mem_year_yearOf d.dayNumber
  obtain ⟨hlow', hhigh'⟩ := d.dayNumber_mem_year
  exact eq_of_mem_year hlow hhigh hlow' hhigh'

theorem ordinalOf_dayNumber : ordinalOf d.dayNumber = d.ordinal := by
  rw [ordinalOf, yearOf_dayNumber, dayNumber]
  omega

/-- **A date is found by the number of its day.** -/
theorem ofDayNumber?_dayNumber : ofDayNumber? d.dayNumber = some d := by
  rw [ofDayNumber?, yearOf_dayNumber, ordinalOf_dayNumber, Int.toNat_natCast,
    ofOrdinal?_ordinal]

end Date

end Colonnade
