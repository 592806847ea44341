import Basis.Calendar.Date

/-!
# Ordinals of the proleptic Gregorian calendar

`ordinal y m d` counts the days up to a date and `ofOrdinal n` finds the date
of a count. This file shows that the two are inverse bijections between the
integers and the days of the calendar, in every year, and that the three ways
the library moves a day back into its month agree with the count.

* Years: `daysBeforeYear_succ` says a year has 365 days, and one more when it
  is a leap year; `daysBeforeYear_mono` that the count of days before a year
  grows with the year.
* Months: `daysBeforeMonth_succ` says each month starts where the one before
  it ends, and `daysBeforeMonth_add_daysInMonth_le` that a later month starts
  after an earlier one has ended; `monthDayOf_spec` checks the month guess of
  `ofOrdinal` on every day of both kinds of year.
* `ofOrdinal_cases` splits `n - 1` into cycles of 400, 100 and 4 years and
  single years, the way `ofOrdinal` does, and reads off the year and the day
  within it.
* `Date.OnCalendar` is the shape of a day of the calendar (a month from 1 to
  12, a day within its month). `Date.toOrdinal_ofOrdinal`,
  `Date.ofOrdinal_onCalendar` and `Date.ofOrdinal_toOrdinal` make the bijection;
  `Date.inRange_iff` says that the years 1 to 9999 are the ordinals 1 to
  3652059.
* `normalizeDate_eq`: a day out of its month's range, brought back by
  `normalizeDate`, lands on the ordinal the first of the month gives plus the
  days past it.
-/

namespace Basis.Calendar

/-! ## Years -/

theorem isLeap_iff (y : Int) : isLeap y = true ↔ y % 4 = 0 ∧ (y % 100 ≠ 0 ∨ y % 400 = 0) := by
  simp [isLeap]

theorem daysBeforeYear_eq (y : Int) :
    daysBeforeYear y = (y - 1) * 365 + (y - 1) / 4 - (y - 1) / 100 + (y - 1) / 400 := by
  simp (disch := decide) only [daysBeforeYear, Int.fdiv_eq_ediv_of_nonneg]

/-- The days of a year: 365, and one more in a leap year. -/
def yearLength (y : Int) : Int := if isLeap y then 366 else 365

theorem daysBeforeYear_succ (y : Int) : daysBeforeYear (y + 1) = daysBeforeYear y + yearLength y := by
  rw [daysBeforeYear_eq, daysBeforeYear_eq, yearLength]
  split
  · next h => rw [isLeap_iff] at h; omega
  · next h => rw [isLeap_iff] at h; omega

theorem daysBeforeYear_mono {y y' : Int} (h : y ≤ y') : daysBeforeYear y ≤ daysBeforeYear y' := by
  rw [daysBeforeYear_eq, daysBeforeYear_eq]
  omega

theorem daysBeforeYear_one : daysBeforeYear 1 = 0 := by decide

theorem daysBeforeYear_tenThousand : daysBeforeYear 10000 = 3652059 := by decide

/-! ## Months -/

theorem daysBeforeMonth_one (y : Int) : daysBeforeMonth y 1 = 0 := rfl

theorem daysInMonth_twelve (y : Int) : daysInMonth y 12 = 31 := rfl

theorem daysBeforeMonth_twelve (y : Int) : (daysBeforeMonth y 12 : Int) + 31 = yearLength y := by
  unfold daysBeforeMonth yearLength
  cases isLeap y <;> decide

/-- Each month starts where the month before it ends. -/
theorem daysBeforeMonth_succ (y : Int) (m : Nat) (h1 : 1 ≤ m) (h2 : m < 12) :
    daysBeforeMonth y (m + 1) = daysBeforeMonth y m + daysInMonth y m := by
  unfold daysBeforeMonth daysInMonth
  generalize isLeap y = b
  revert h1; revert h2; revert m
  cases b <;> decide

/-- A later month starts after an earlier one has ended. -/
theorem daysBeforeMonth_add_daysInMonth_le (y : Int) {m m' : Nat} (h1 : 1 ≤ m) (h : m < m')
    (h2 : m' ≤ 12) : daysBeforeMonth y m + daysInMonth y m ≤ daysBeforeMonth y m' := by
  -- induction on the later month, one month at a time
  induction m' with
  | zero => omega
  | succ k ih =>
    rw [daysBeforeMonth_succ y k (by omega) (by omega)]
    rcases Nat.lt_succ_iff_lt_or_eq.1 h with hk | rfl
    · have := ih hk (by omega)
      omega
    · omega

theorem daysInMonth_pos (y : Int) (m : Nat) (h1 : 1 ≤ m) (h2 : m ≤ 12) : 1 ≤ daysInMonth y m := by
  unfold daysInMonth
  generalize isLeap y = b
  revert h1; revert h2; revert m
  cases b <;> decide

/-- The month and day of each day of a year, as `ofOrdinal` guesses them: a
month of the year, a day within it, and together the day counted. The last day
of a leap year is left out; `ofOrdinal` treats it apart. -/
theorem monthDayOf_spec (y : Int) {r : Nat} (hr : r < 365) :
    1 ≤ (monthDayOf (isLeap y) r).1 ∧ (monthDayOf (isLeap y) r).1 ≤ 12 ∧
      1 ≤ (monthDayOf (isLeap y) r).2 ∧
      (monthDayOf (isLeap y) r).2 ≤ daysInMonth y (monthDayOf (isLeap y) r).1 ∧
      daysBeforeMonth y (monthDayOf (isLeap y) r).1 + (monthDayOf (isLeap y) r).2 = r + 1 := by
  unfold daysBeforeMonth daysInMonth
  generalize isLeap y = b
  revert r
  -- every day of both kinds of year
  cases b <;> decide +kernel

/-! ## From an ordinal to a date -/

/-- `ofOrdinal` either gives the last day of a leap year, or a year and a day
within it before the last; either way the days before it add up to the
ordinal. -/
theorem ofOrdinal_cases (n : Int) :
    (∃ y, ofOrdinal n = (y, 12, 31) ∧ isLeap y = true ∧ daysBeforeYear y + 366 = n) ∨
    (∃ y, ∃ r : Nat, r < 365 ∧ ofOrdinal n = (y, monthDayOf (isLeap y) r) ∧
      daysBeforeYear y + r + 1 = n) := by
  unfold ofOrdinal
  simp (disch := decide) only [daysIn400Years, daysIn100Years, daysIn4Years, Int.fdiv_eq_ediv_of_nonneg,
    Int.fmod_eq_emod_of_nonneg]
  -- the cycles of 400, 100 and 4 years and the single years that `n - 1` is split into
  generalize hq400 : (n - 1) / 146097 = q400
  generalize hr1 : (n - 1) % 146097 = r1
  generalize hq100 : r1 / 36524 = q100
  generalize hr2 : r1 % 36524 = r2
  generalize hq4 : r2 / 1461 = q4
  generalize hr3 : r2 % 1461 = r3
  generalize hq1 : r3 / 365 = q1
  generalize hr : r3 % 365 = r
  have hn : n - 1 = 146097 * q400 + 36524 * q100 + 1461 * q4 + 365 * q1 + r := by omega
  have hb : 0 ≤ r ∧ r < 365 ∧ 0 ≤ q1 ∧ q1 ≤ 4 ∧ 0 ≤ q4 ∧ q4 ≤ 24 ∧ 0 ≤ q100 ∧ q100 ≤ 4 := by omega
  -- a fifth year, or a fourth century, is only the one day that ends a leap year
  have hlast4 : q1 = 4 → r = 0 ∧ q4 ≤ 23 := by omega
  have hlast100 : q100 = 4 → q4 = 0 ∧ q1 = 0 ∧ r = 0 := by omega
  clear hq400 hr1 hq100 hr2 hq4 hr3 hq1 hr r1 r2 r3
  split
  · next h =>
    simp only [Bool.or_eq_true, beq_iff_eq] at h
    refine Or.inl ⟨_, rfl, ?_, ?_⟩
    · rw [isLeap_iff]; omega
    · rw [daysBeforeYear_eq]; omega
  · next h =>
    simp only [Bool.or_eq_true, beq_iff_eq, not_or] at h
    refine Or.inr ⟨q400 * 400 + 1 + q100 * 100 + q4 * 4 + q1, r.toNat, by omega, ?_, ?_⟩
    · have hleap : isLeap (q400 * 400 + 1 + q100 * 100 + q4 * 4 + q1) =
          (q1 == 3 && (q4 != 24 || q100 == 3)) := by
        rw [Bool.eq_iff_iff, isLeap_iff]
        simp only [Bool.and_eq_true, beq_iff_eq, Bool.or_eq_true, bne_iff_ne, ne_eq]
        omega
      rw [hleap]
    · rw [daysBeforeYear_eq]; omega

namespace Date

/-- A day of the calendar: a month from 1 to 12 and a day within its month,
in any year. -/
structure OnCalendar (d : Date) : Prop where
  /-- The month is one of the twelve. -/
  month_pos : 1 ≤ d.month
  /-- The month is one of the twelve. -/
  month_le : d.month ≤ 12
  /-- The day lies within its month. -/
  day_pos : 1 ≤ d.day
  /-- The day lies within its month. -/
  day_le : d.day ≤ daysInMonth d.year d.month

theorem onCalendar_iff (d : Date) :
    d.OnCalendar ↔ 1 ≤ d.month ∧ d.month ≤ 12 ∧ 1 ≤ d.day ∧ d.day ≤ daysInMonth d.year d.month :=
  ⟨fun ⟨h1, h2, h3, h4⟩ => ⟨h1, h2, h3, h4⟩, fun ⟨h1, h2, h3, h4⟩ => ⟨h1, h2, h3, h4⟩⟩

instance (d : Date) : Decidable d.OnCalendar := decidable_of_iff _ (onCalendar_iff d).symm

/-- A day of the calendar falls after the days before its year and within the
length of the year. -/
theorem OnCalendar.toOrdinal_bounds {d : Date} (h : d.OnCalendar) :
    daysBeforeYear d.year < d.toOrdinal ∧ d.toOrdinal ≤ daysBeforeYear (d.year + 1) := by
  -- the day lies before the end of December, whichever month it is in
  have hend : daysBeforeMonth d.year d.month + d.day ≤ daysBeforeMonth d.year 12 + 31 := by
    have := h.day_le
    rcases Nat.lt_or_ge d.month 12 with hm | hm
    · have := daysBeforeMonth_add_daysInMonth_le d.year h.month_pos hm (Nat.le_refl 12)
      omega
    · have h12 : d.month = 12 := Nat.le_antisymm h.month_le hm
      rw [h12, daysInMonth_twelve] at this
      rw [h12]
      omega
  have hlast := daysBeforeMonth_twelve d.year
  have := h.day_pos
  rw [daysBeforeYear_succ]
  unfold toOrdinal ordinal
  omega

/-- Two days of the calendar with one ordinal are the same day. -/
theorem toOrdinal_inj {a b : Date} (ha : a.OnCalendar) (hb : b.OnCalendar)
    (h : a.toOrdinal = b.toOrdinal) : a = b := by
  have hba := ha.toOrdinal_bounds
  have hbb := hb.toOrdinal_bounds
  have hy : a.year = b.year := by
    rcases Int.lt_trichotomy a.year b.year with hlt | heq | hgt
    · have := daysBeforeYear_mono (show a.year + 1 ≤ b.year by omega)
      omega
    · exact heq
    · have := daysBeforeYear_mono (show b.year + 1 ≤ a.year by omega)
      omega
  -- within one year, the days before the month and the day add up the same
  have hsum : daysBeforeMonth b.year a.month + a.day = daysBeforeMonth b.year b.month + b.day := by
    unfold toOrdinal ordinal at h
    rw [hy] at h
    omega
  have hda := ha.day_le
  rw [hy] at hda
  have hm : a.month = b.month := by
    rcases Nat.lt_trichotomy a.month b.month with hlt | heq | hgt
    · have := daysBeforeMonth_add_daysInMonth_le b.year ha.month_pos hlt hb.month_le
      have := hb.day_pos
      omega
    · exact heq
    · have := daysBeforeMonth_add_daysInMonth_le b.year hb.month_pos hgt ha.month_le
      have := hb.day_le; have := ha.day_pos
      omega
  have hd : a.day = b.day := by
    rw [hm] at hsum
    omega
  cases a; cases b
  simp_all

/-- The date of an ordinal is a day of the calendar. -/
theorem ofOrdinal_onCalendar (n : Int) : (ofOrdinal n).OnCalendar := by
  show (⟨(Calendar.ofOrdinal n).1, (Calendar.ofOrdinal n).2.1, (Calendar.ofOrdinal n).2.2⟩ : Date).OnCalendar
  rcases ofOrdinal_cases n with ⟨y, hy, -, -⟩ | ⟨y, r, hr, hy, -⟩
  · rw [hy]
    exact ⟨show 1 ≤ 12 by decide, show 12 ≤ 12 by decide, show 1 ≤ 31 by decide,
      Nat.le_of_eq (daysInMonth_twelve y).symm⟩
  · obtain ⟨h1, h2, h3, h4, -⟩ := monthDayOf_spec y hr
    rw [hy]
    exact ⟨h1, h2, h3, h4⟩

/-- The date of an ordinal has that ordinal. -/
theorem toOrdinal_ofOrdinal (n : Int) : (ofOrdinal n).toOrdinal = n := by
  show ordinal (Calendar.ofOrdinal n).1 (Calendar.ofOrdinal n).2.1 (Calendar.ofOrdinal n).2.2 = n
  rcases ofOrdinal_cases n with ⟨y, hy, hleap, hn⟩ | ⟨y, r, hr, hy, hn⟩
  · have hlen : yearLength y = 366 := by simp [yearLength, hleap]
    have := daysBeforeMonth_twelve y
    rw [hy]
    dsimp only
    unfold ordinal
    omega
  · obtain ⟨-, -, -, -, hsum⟩ := monthDayOf_spec y hr
    rw [hy]
    dsimp only
    unfold ordinal
    omega

/-- A day of the calendar is the date of its ordinal. -/
theorem ofOrdinal_toOrdinal {d : Date} (h : d.OnCalendar) : ofOrdinal d.toOrdinal = d :=
  toOrdinal_inj (ofOrdinal_onCalendar _) h (toOrdinal_ofOrdinal _)

/-- The years 1 to 9999 are the ordinals 1 to 3652059. -/
theorem inRange_iff {d : Date} (h : d.OnCalendar) :
    (minYear ≤ d.year ∧ d.year ≤ maxYear) ↔ (1 ≤ d.toOrdinal ∧ d.toOrdinal ≤ 3652059) := by
  have hb := h.toOrdinal_bounds
  unfold minYear maxYear
  constructor
  · rintro ⟨h1, h2⟩
    have := daysBeforeYear_mono h1
    have := daysBeforeYear_mono (show d.year + 1 ≤ 10000 by omega)
    rw [daysBeforeYear_one] at *
    rw [daysBeforeYear_tenThousand] at *
    omega
  · rintro ⟨h1, h2⟩
    constructor
    · rcases Int.lt_or_le d.year 1 with hlt | hge
      · have := daysBeforeYear_mono (show d.year + 1 ≤ 1 by omega)
        rw [daysBeforeYear_one] at this
        omega
      · exact hge
    · rcases Int.lt_or_le d.year 10000 with hlt | hge
      · omega
      · have := daysBeforeYear_mono hge
        rw [daysBeforeYear_tenThousand] at this
        omega

end Date

/-! ## Moving a day back into its month -/

/-- A day of the calendar, given by its fields, is the date of its ordinal. -/
theorem eq_ofOrdinal_of_onCalendar {y : Int} {m d : Nat} {n : Int}
    (h : 1 ≤ m ∧ m ≤ 12 ∧ 1 ≤ d ∧ d ≤ daysInMonth y m) (ho : ordinal y m d = n) :
    (y, m, d) = ofOrdinal n := by
  have hd := Date.ofOrdinal_toOrdinal ((Date.onCalendar_iff ⟨y, m, d⟩).2 h)
  unfold Date.toOrdinal Date.ofOrdinal at hd
  rw [ho] at hd
  generalize ofOrdinal n = p at hd
  obtain ⟨y', m', d'⟩ := p
  simp only [Date.mk.injEq] at hd
  obtain ⟨rfl, rfl, rfl⟩ := hd
  rfl

/-- Bringing a day back into its month, whichever of the three ways it takes,
lands on the date of the ordinal of the first of the month plus the days past
it. -/
theorem normalizeDate_eq (y : Int) {m : Nat} (h1 : 1 ≤ m) (h2 : m ≤ 12) (d : Int) :
    normalizeDate y m d = ofOrdinal (ordinal y m 1 + (d - 1)) := by
  have hdim := daysInMonth_pos y m h1 h2
  unfold normalizeDate
  dsimp only
  split
  · -- already within the month
    next h =>
    simp only [Bool.and_eq_true, decide_eq_true_eq] at h
    refine eq_ofOrdinal_of_onCalendar ⟨h1, h2, by omega, by omega⟩ ?_
    unfold ordinal
    omega
  split
  · -- the day before the first: the last day of the month before
    next h0 =>
    simp only [beq_iff_eq] at h0
    split
    · next hm =>
      have hs := daysBeforeMonth_succ y (m - 1) (by omega) (by omega)
      rw [Nat.sub_add_cancel h1] at hs
      refine eq_ofOrdinal_of_onCalendar
        ⟨by omega, by omega, daysInMonth_pos y _ (by omega) (by omega), Nat.le_refl _⟩ ?_
      unfold ordinal
      omega
    · next hm =>
      have hm1 : m = 1 := by omega
      have hs := daysBeforeYear_succ (y - 1)
      have hl := daysBeforeMonth_twelve (y - 1)
      rw [Int.sub_add_cancel] at hs
      subst hm1
      refine eq_ofOrdinal_of_onCalendar
        ⟨by decide, by decide, by decide, Nat.le_of_eq (daysInMonth_twelve (y - 1)).symm⟩ ?_
      unfold ordinal
      rw [daysBeforeMonth_one]
      omega
  split
  · -- the day after the last: the first of the month after
    next _ hl =>
    simp only [beq_iff_eq] at hl
    split
    · next hm =>
      have hs := daysBeforeMonth_succ y m h1 hm
      refine eq_ofOrdinal_of_onCalendar
        ⟨by omega, by omega, Nat.le_refl _, daysInMonth_pos y _ (by omega) (by omega)⟩ ?_
      unfold ordinal
      omega
    · next hm =>
      have hm12 : m = 12 := by omega
      have hs := daysBeforeYear_succ y
      have hlast := daysBeforeMonth_twelve y
      subst hm12
      rw [daysInMonth_twelve] at hl
      refine eq_ofOrdinal_of_onCalendar
        ⟨by decide, by decide, by decide, daysInMonth_pos _ _ (by decide) (by decide)⟩ ?_
      unfold ordinal
      rw [daysBeforeMonth_one]
      omega
  · -- further out: through the ordinal itself
    rfl

end Basis.Calendar
