import Basis.Proofs.Calendar.Arithmetic

/-!
# Fields of any range, carried into the calendar

`Date.normalizeFields` takes a year, a month and a day that may lie anywhere:
a month outside 1..12 is moved into it first, twelve months to the year, and
the day is then moved across months and years by the three ways
`normalizeDate` has. All of it is one count of days:

* `normalizeMonth_eq`: the month `m` of year `y` is month `(m - 1) % 12 + 1`
  of year `y + (m - 1) / 12`, with the rounding down of integer division, in
  range or not.
* `Date.normalizeFields_eq`: the date is the date of the ordinal of the first
  of that month plus the days past it, refused with an `OverflowError` when its
  year leaves 1..9999 and overflow is not ignored.
* `normalizeMomentFields_eq`: carrying a moment's fields is `normalizeMoment`
  after the month is brought into range, so the carries keep the count of
  microseconds the fields give (`normalizeMomentFields_lands`).

`normalization_through_ordinal` states both together.
-/

namespace Basis.Calendar

/-! ## Months -/

/-- A month of any range, counted on from January of a year: twelve months to
the year, and floor division for the years. -/
theorem normalizeMonth_eq (y m : Int) :
    normalizeMonth y m = (y + (m - 1) / 12, ((m - 1) % 12 + 1).toNat) := by
  unfold normalizeMonth
  split
  · -- already in range: no years to carry
    next h =>
    simp only [Bool.and_eq_true, decide_eq_true_eq] at h
    have hq : (m - 1) / 12 = 0 := by omega
    have hr : (m - 1) % 12 + 1 = m := by omega
    rw [hq, hr, Int.add_zero]
  · simp (disch := decide) only [Int.fdiv_eq_ediv_of_nonneg, Int.fmod_eq_emod_of_nonneg]

theorem normalizeMonth_month_mem (y m : Int) :
    1 ≤ (normalizeMonth y m).2 ∧ (normalizeMonth y m).2 ≤ 12 := by
  rw [normalizeMonth_eq]
  omega

theorem normalizeMonth_of_mem (y : Int) {m : Nat} (h1 : 1 ≤ m) (h2 : m ≤ 12) :
    normalizeMonth y m = (y, m) := by
  rw [normalizeMonth_eq]
  have hq : ((m : Int) - 1) / 12 = 0 := by omega
  have hr : (((m : Int) - 1) % 12 + 1).toNat = m := by omega
  rw [hq, hr, Int.add_zero]

/-! ## Dates -/

namespace Date

/-- Date fields of any range land on the date of the ordinal of the first of
their month, brought into range, plus the days past it; the year of that date
decides the `OverflowError`, unless overflow is ignored. -/
theorem normalizeFields_eq (y m d : Int) (ignoreOverflow : Bool) :
    normalizeFields y m d ignoreOverflow =
      let r := ofOrdinal (ordinal (y + (m - 1) / 12) ((m - 1) % 12 + 1).toNat 1 + (d - 1))
      if !ignoreOverflow && !(minYear ≤ r.year && r.year ≤ maxYear) then
        .error (.overflowError "date value out of range")
      else .ok r := by
  obtain ⟨h1, h2⟩ := normalizeMonth_month_mem y m
  unfold normalizeFields
  rw [normalizeMonth_eq] at h1 h2 ⊢
  dsimp only
  rw [normalizeDate_eq _ h1 h2]
  rfl

-- month 14 of 2000 is February 2001, and its day 0 the last of January
example : normalizeFields 2000 14 0 false = .ok ⟨2001, 1, 31⟩ := by decide

/-- Within the twelve months, the fields are a day moved out of its month:
`normalizeFields` is `normalize`, which adds days to dates. -/
theorem normalize_eq_normalizeFields (y : Int) {m : Nat} (h1 : 1 ≤ m) (h2 : m ≤ 12) (d : Int) :
    normalize y m d = normalizeFields y m d false := by
  unfold normalize normalizeFields
  rw [normalizeMonth_of_mem y h1 h2]
  dsimp only
  split <;> simp_all

end Date

/-! ## Moments -/

/-- Carrying a moment's fields is `normalizeMoment` once the month is in range. -/
theorem normalizeMomentFields_eq (y m d hh mm ss us : Int) (ignoreOverflow : Bool) :
    normalizeMomentFields y m d hh mm ss us ignoreOverflow =
      normalizeMoment (normalizeMonth y m).1 (normalizeMonth y m).2 d hh mm ss us ignoreOverflow := by
  unfold normalizeMomentFields normalizeMoment Date.normalizeFields
  dsimp only
  split <;> rfl

/-- The carries of a moment's fields, the month's included, keep the count of
microseconds that the fields give, counting the days from the first of the
month brought into range. -/
theorem normalizeMomentFields_lands (y m d hh mm ss us : Int) :
    Lands (normalizeMomentFields y m d hh mm ss us false)
      (((ordinal (y + (m - 1) / 12) ((m - 1) % 12 + 1).toNat 1 + (d - 1)) * 86400 + hh * 3600 +
        mm * 60 + ss) * 1000000 + us) := by
  obtain ⟨h1, h2⟩ := normalizeMonth_month_mem y m
  rw [normalizeMomentFields_eq]
  rw [normalizeMonth_eq] at h1 h2 ⊢
  exact normalizeMoment_lands _ h1 h2 d hh mm ss us

/-- Fields of any range are brought into the calendar through the count of
days: the date is the one of the ordinal of the first of the month, brought
into range, plus the days past it, refused exactly when its year leaves
1..9999 and overflow is not ignored; and a moment's fields land on the count
of microseconds they give. -/
theorem normalization_through_ordinal (y m d hh mm ss us : Int) (ignoreOverflow : Bool) :
    (Date.normalizeFields y m d ignoreOverflow =
      let r := Date.ofOrdinal (ordinal (y + (m - 1) / 12) ((m - 1) % 12 + 1).toNat 1 + (d - 1))
      if !ignoreOverflow && !(minYear ≤ r.year && r.year ≤ maxYear) then
        .error (.overflowError "date value out of range")
      else .ok r) ∧
    Lands (normalizeMomentFields y m d hh mm ss us false)
      (((ordinal (y + (m - 1) / 12) ((m - 1) % 12 + 1).toNat 1 + (d - 1)) * 86400 + hh * 3600 +
        mm * 60 + ss) * 1000000 + us) :=
  ⟨Date.normalizeFields_eq y m d ignoreOverflow, normalizeMomentFields_lands y m d hh mm ss us⟩

end Basis.Calendar
