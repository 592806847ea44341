import Basis.Proofs.Calendar.Ordinal

/-!
# ISO week dates

The ISO calendar counts a year in weeks, Monday to Sunday: week 1 is the week
that holds the year's first Thursday, and the ISO year runs from the Monday of
its week 1 to the Monday of the next year's. `isoCalendar` finds the ISO year,
week and weekday of a date from the Monday of week 1 of the date's own year,
looking at the year before when the date lies before that Monday, and at the
year after when it lies in a 53rd week that the next year has already taken.

* `weekdayOf_eq`: day 1 of the count was a Monday, so the day of the week is
  the ordinal less one, modulo 7.
* `isoWeekOneMonday_spec`: the Monday of week 1 is a Monday, at most three days
  from January 1.
* `isoWeekOneMonday_succ`: an ISO year has 52 or 53 weeks.
* `Date.isIsoWeekDate_of_mem`: a day between the Monday of week 1 of a year and
  that of the next is counted from the first by weeks and days.
* `Date.isoCalendar_isIsoWeekDate`: every day of the calendar, in any year, has
  as its ISO calendar the ISO year it lies in, its week from 1 to 53 and its
  weekday, which count back to its ordinal.
-/

namespace Basis.Calendar

/-! ## Mondays -/

/-- Day 1 was a Monday: the day of the week of an ordinal is the ordinal less
one, modulo 7. -/
theorem weekdayOf_eq (n : Int) : (weekdayOf n : Int) = (n - 1) % 7 := by
  rw [weekdayOf, Int.fmod_eq_emod_of_nonneg _ (by decide)]
  omega

theorem ordinal_one_one (y : Int) : ordinal y 1 1 = daysBeforeYear y + 1 := by
  rw [ordinal, daysBeforeMonth_one]
  omega

/-- The Monday of week 1 is a Monday, at most three days before or after
January 1. -/
theorem isoWeekOneMonday_spec (y : Int) :
    (isoWeekOneMonday y - 1) % 7 = 0 ∧
      daysBeforeYear y - 2 ≤ isoWeekOneMonday y ∧ isoWeekOneMonday y ≤ daysBeforeYear y + 4 := by
  have hw := weekdayOf_eq (ordinal y 1 1)
  rw [ordinal_one_one] at hw
  unfold isoWeekOneMonday
  rw [ordinal_one_one]
  dsimp only
  -- January 1 on Friday to Sunday: week 1 starts on the Monday after it
  split <;> omega

theorem yearLength_bounds (y : Int) : 365 ≤ yearLength y ∧ yearLength y ≤ 366 := by
  unfold yearLength
  split <;> decide

/-- An ISO year has 52 or 53 weeks: the Monday of week 1 of the next year is
52 or 53 weeks after this year's. -/
theorem isoWeekOneMonday_succ (y : Int) :
    isoWeekOneMonday (y + 1) = isoWeekOneMonday y + 7 * 52 ∨
      isoWeekOneMonday (y + 1) = isoWeekOneMonday y + 7 * 53 := by
  obtain ⟨hm, hlo, hhi⟩ := isoWeekOneMonday_spec y
  obtain ⟨hm', hlo', hhi'⟩ := isoWeekOneMonday_spec (y + 1)
  have hs := daysBeforeYear_succ y
  have hl := yearLength_bounds y
  -- two Mondays a year of 365 or 366 days apart, give or take three days at each end
  omega

/-- A day of the year `y` comes after the Monday of week 1 of the year before. -/
theorem isoWeekOneMonday_pred_le {y n : Int} (h : daysBeforeYear y < n) :
    isoWeekOneMonday (y - 1) ≤ n := by
  have hm := (isoWeekOneMonday_spec (y - 1)).2.2
  have hs := daysBeforeYear_succ (y - 1)
  have hl := yearLength_bounds (y - 1)
  rw [Int.sub_add_cancel] at hs
  omega

/-- A day of the year `y` comes before the Monday of week 1 of the year after
next. -/
theorem lt_isoWeekOneMonday_add_two {y n : Int} (h : n ≤ daysBeforeYear (y + 1)) :
    n < isoWeekOneMonday (y + 1 + 1) := by
  have hm := (isoWeekOneMonday_spec (y + 1 + 1)).2.1
  have hs := daysBeforeYear_succ (y + 1)
  have hl := yearLength_bounds (y + 1)
  omega

namespace Date

/-! ## The ISO week date of a day -/

/-- `(year, week, day)` is the ISO week date of the day `d`: `day` is its
weekday, Monday 1 to Sunday 7; `week` lies in 1 to 53; `d` lies in the ISO
year `year`, from the Monday of its week 1 up to that of the next year; and
its ordinal is counted from that Monday by weeks and days. -/
structure IsIsoWeekDate (d : Date) (year week day : Int) : Prop where
  /-- The day is the weekday, Monday 1 to Sunday 7. -/
  day_eq : day = d.isoWeekday
  /-- Weeks are numbered from 1. -/
  week_pos : 1 ≤ week
  /-- No ISO year has more than 53 weeks. -/
  week_le : week ≤ 53
  /-- The ISO year has begun. -/
  monday_le : isoWeekOneMonday year ≤ d.toOrdinal
  /-- The next ISO year has not. -/
  lt_next_monday : d.toOrdinal < isoWeekOneMonday (year + 1)
  /-- The week and day count the ordinal from the Monday of week 1. -/
  toOrdinal_eq : d.toOrdinal = isoWeekOneMonday year + 7 * (week - 1) + (day - 1)

theorem isoWeekday_eq (d : Date) : (d.isoWeekday : Int) = (d.toOrdinal - 1) % 7 + 1 := by
  have := weekdayOf_eq d.toOrdinal
  rw [isoWeekday, weekday]
  omega

/-- A day between the Monday of week 1 of a year and that of the next is
counted from the first in whole weeks and the days past them. -/
theorem isIsoWeekDate_of_mem {d : Date} {year : Int} (hlo : isoWeekOneMonday year ≤ d.toOrdinal)
    (hhi : d.toOrdinal < isoWeekOneMonday (year + 1)) :
    d.IsIsoWeekDate year ((d.toOrdinal - isoWeekOneMonday year) / 7 + 1)
      ((d.toOrdinal - isoWeekOneMonday year) % 7 + 1) := by
  have hwd := isoWeekday_eq d
  have hm := (isoWeekOneMonday_spec year).1
  have hnext := isoWeekOneMonday_succ year
  refine ⟨?_, ?_, ?_, hlo, hhi, ?_⟩
  · -- counted from a Monday, the days past whole weeks are the weekday less one
    omega
  · omega
  · omega
  · omega

/-- The ISO calendar of every day of the calendar, in any year, is its ISO
week date: its weekday, a week from 1 to 53 of the ISO year the day lies in,
counting back to its ordinal. -/
theorem isoCalendar_isIsoWeekDate {d : Date} (hd : d.OnCalendar) :
    d.IsIsoWeekDate d.isoCalendar.1 d.isoCalendar.2.1 d.isoCalendar.2.2 := by
  obtain ⟨hlo, hhi⟩ := hd.toOrdinal_bounds
  -- this year's week 1 and the next year's are whole weeks apart, and the
  -- next one starts at most two days before the day's year ends
  have hweeks := isoWeekOneMonday_succ d.year
  have hnext := (isoWeekOneMonday_spec (d.year + 1)).2.1
  have ht : ordinal d.year d.month d.day = d.toOrdinal := rfl
  unfold isoCalendar Calendar.isoCalendar
  dsimp only
  simp only [ht, Int.fdiv_eq_ediv_of_nonneg _ (show (0 : Int) ≤ 7 by decide),
    Int.fmod_eq_emod_of_nonneg _ (show (0 : Int) ≤ 7 by decide)]
  split
  · -- before week 1 of its own year: the last week of the year before
    next hbefore =>
    dsimp only
    refine isIsoWeekDate_of_mem (isoWeekOneMonday_pred_le hlo) ?_
    rw [Int.sub_add_cancel]
    omega
  split
  · -- in a 53rd week that the next year has taken: its week 1
    next hlate =>
    dsimp only
    simp only [Bool.and_eq_true, decide_eq_true_eq] at hlate
    have h := @isIsoWeekDate_of_mem d (d.year + 1) hlate.2 (lt_isoWeekOneMonday_add_two hhi)
    have hweek : (d.toOrdinal - isoWeekOneMonday (d.year + 1)) / 7 + 1 = 1 := by omega
    have hday : (d.toOrdinal - isoWeekOneMonday (d.year + 1)) % 7 =
        (d.toOrdinal - isoWeekOneMonday d.year) % 7 := by omega
    rw [hweek, hday] at h
    exact h
  · -- within its own year
    next hlate =>
    dsimp only
    simp only [Bool.and_eq_true, decide_eq_true_eq, not_and] at hlate
    exact isIsoWeekDate_of_mem (by omega) (by omega)

/-- 3 January 2010, a Sunday, is the last day of week 53 of ISO year 2009:
the year before is looked at. -/
theorem isoCalendar_third_january_2010 :
    (⟨2010, 1, 3⟩ : Date).OnCalendar ∧ (⟨2010, 1, 3⟩ : Date).isoCalendar = (2009, 53, 7) ∧
      (⟨2010, 1, 3⟩ : Date).IsIsoWeekDate 2009 53 7 := by
  have hon : (⟨2010, 1, 3⟩ : Date).OnCalendar := by decide
  have hcal : (⟨2010, 1, 3⟩ : Date).isoCalendar = (2009, 53, 7) := by decide
  have h := isoCalendar_isIsoWeekDate hon
  rw [hcal] at h
  exact ⟨hon, hcal, h⟩

end Date

end Basis.Calendar
