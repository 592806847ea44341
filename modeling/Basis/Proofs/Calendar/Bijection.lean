import Basis.Proofs.Calendar.Compare

/-!
# The ordinal count is a bijection

`ordinal y m d` counts the days up to a date and `ofOrdinal n` finds the date
of a count. `Ordinal.lean` shows the two inverse on days of the calendar; this
file adds what the procedure behind `ofOrdinal` checks along the way, and
states the whole correspondence the way the calendar's methods use it.

* `ofOrdinalChecked_eq`: the procedure passes all of its checks on every
  integer, and finds what `ofOrdinal` finds. The month guess is checked on
  every day of both kinds of year (`monthDayChecked_eq`); the rest is the
  arithmetic of the cycles of 400, 100 and 4 years.
* `ordinal_count_bijective`: the date of every integer is a day of the
  calendar that counts back to it; every day of the calendar, in any year, is
  the date of its count; the count grows with the date taken year, month,
  day. Hence `fromordinal` and `toordinal` undo each other on the ordinals 1
  to 3652059, and dates compare as their ordinals.
-/

namespace Basis.Calendar

/-! ## The checks of the procedure -/

/-- The lengths of the months of a year with or without a 29 February. -/
theorem daysInMonth_eq_of_isLeap {y : Int} {leap : Bool} (h : isLeap y = leap) :
    daysInMonth y = fun m => if m == 2 && leap then 29 else monthLengths.getD (m - 1) 0 := by
  funext m
  rw [daysInMonth, h]

/-- The month guess passes its check on every day of both kinds of year but
the last of a leap year, and finds what `monthDayOf` finds. -/
theorem monthDayChecked_eq (leap : Bool) {r : Nat} (hr : r < 365) :
    monthDayChecked leap (fun m => if m == 2 && leap then 29 else monthLengths.getD (m - 1) 0) r =
      some (monthDayOf leap r) := by
  revert r
  -- every day of both kinds of year
  cases leap <;> decide +kernel

/-- The procedure behind `ofOrdinal` passes every check it makes, whatever the
integer, and finds the same date. -/
theorem ofOrdinalChecked_eq (n : Int) : ofOrdinalChecked n = some (ofOrdinal n) := by
  unfold ofOrdinalChecked ofOrdinal
  simp (disch := decide) only [daysIn400Years, daysIn100Years, daysIn4Years,
    Int.fdiv_eq_ediv_of_nonneg, Int.fmod_eq_emod_of_nonneg]
  -- the cycles of 400, 100 and 4 years and the single years that `n - 1` is split into
  generalize hq400 : (n - 1) / 146097 = q400
  generalize hr1 : (n - 1) % 146097 = r1
  generalize hq100 : r1 / 36524 = q100
  generalize hr2 : r1 % 36524 = r2
  generalize hq4 : r2 / 1461 = q4
  generalize hr3 : r2 % 1461 = r3
  generalize hq1 : r3 / 365 = q1
  generalize hr : r3 % 365 = r
  have hb : 0 ≤ r ∧ r < 365 ∧ 0 ≤ q1 ∧ q1 ≤ 4 ∧ 0 ≤ q4 ∧ q4 ≤ 24 ∧ 0 ≤ q100 ∧ q100 ≤ 4 := by omega
  -- a fifth year, or a fourth century, is only the one day that ends a leap year
  have hlast4 : q1 = 4 → r = 0 ∧ q4 ≤ 23 := by omega
  have hlast100 : q100 = 4 → q4 = 0 ∧ q1 = 0 ∧ r = 0 := by omega
  clear hq400 hr1 hq100 hr2 hq4 hr3 hq1 hr r1 r2 r3
  split
  · next h =>
    simp only [Bool.or_eq_true, beq_iff_eq] at h
    have hr0 : r = 0 := by omega
    simp [hr0]
  · next h =>
    simp only [Bool.or_eq_true, beq_iff_eq, not_or] at h
    -- the leap flag read from the cycles is the year's
    have hleap : (q1 == 3 && (q4 != 24 || q100 == 3)) =
        isLeap (q400 * 400 + 1 + q100 * 100 + q4 * 4 + q1) := by
      rw [Bool.eq_iff_iff, isLeap_iff]
      simp only [Bool.and_eq_true, beq_iff_eq, Bool.or_eq_true, bne_iff_ne, ne_eq]
      omega
    obtain ⟨k, rfl⟩ := Int.eq_ofNat_of_zero_le hb.1
    rw [← hleap, daysInMonth_eq_of_isLeap hleap.symm, monthDayChecked_eq _ (show k < 365 by omega)]
    simp

/-! ## The count and the calendar's methods -/

theorem callMethod_date_toordinal (d : Date) (zs : Zones) :
    callMethod (.date d) "toordinal" [] [] zs = .ok (.ofInt d.toOrdinal) := by
  rfl

/-- `fromordinal` gives the date of every ordinal of the years 1 to 9999. -/
theorem callClass_fromordinal_valid {n : Int} (h : 1 ≤ n ∧ n ≤ 3652059) (zs : Zones) :
    callClass "date" "fromordinal" [.ofInt n] [] zs = .ok (.date (Date.ofOrdinal n)) := by
  rw [callClass_fromordinal, Date.ofInts_ofOrdinal h]
  rfl

theorem callMethod_date_compare {name : String} (hname : name ∈ comparisonNames) (a b : Date)
    (zs : Zones) :
    callMethod (.date a) name [.date b] [] zs = .ok (comparisonAnswer name (compareDates a b)) := by
  simp only [comparisonNames, List.mem_cons, List.not_mem_nil, or_false] at hname
  rcases hname with rfl | rfl | rfl | rfl | rfl | rfl <;> rfl

/-- Comparing two days of the calendar field by field compares their ordinals. -/
theorem compareDates_eq {a b : Date} (ha : a.OnCalendar) (hb : b.OnCalendar) :
    compareDates a b = compare a.toOrdinal b.toOrdinal := by
  rw [← Date.compare_fields ha hb]
  simp only [compareDates, compareKeys_cons]
  rw [show compareKeys [] [] = .eq from rfl, Ordering.then_eq]

/-- `toordinal` gives back the ordinal `fromordinal` was given, in the years 1 to 9999. -/
theorem toordinal_fromordinal {n : Int} (h : 1 ≤ n ∧ n ≤ 3652059) (zs : Zones) :
    ((callClass "date" "fromordinal" [.ofInt n] [] zs).bind fun o => callMethod o "toordinal" [] [] zs) =
      .ok (.ofInt n) := by
  rw [callClass_fromordinal_valid h]
  simp only [Except.bind]
  rw [callMethod_date_toordinal, Date.toOrdinal_ofOrdinal]

/-- `fromordinal` gives back the date `toordinal` was called on, in the years 1 to 9999. -/
theorem fromordinal_toordinal {d : Date} (hd : d.Valid) (zs : Zones) :
    ((callMethod (.date d) "toordinal" [] [] zs).bind fun o => callClass "date" "fromordinal" [o] [] zs) =
      .ok (.date d) := by
  rw [callMethod_date_toordinal]
  simp only [Except.bind]
  rw [callClass_fromordinal_valid hd.toOrdinal_mem, Date.ofOrdinal_toOrdinal hd.toOnCalendar]

/-! ## The correspondence -/

/-- What it means for the ordinal count to be a bijection between the integers
and the days of the calendar, and for the calendar's methods to use it. -/
structure OrdinalCountBijective : Prop where
  /-- The procedure behind `ofOrdinal` passes every check it makes. -/
  checks_pass : ∀ n, ofOrdinalChecked n = some (ofOrdinal n)
  /-- The date of every integer is a day of the calendar. -/
  ofOrdinal_onCalendar : ∀ n, (Date.ofOrdinal n).OnCalendar
  /-- It counts back to the integer. -/
  toOrdinal_ofOrdinal : ∀ n, (Date.ofOrdinal n).toOrdinal = n
  /-- Every day of the calendar, in any year, is the date of its count. -/
  ofOrdinal_toOrdinal : ∀ d : Date, d.OnCalendar → Date.ofOrdinal d.toOrdinal = d
  /-- The count grows with the day taken year, month, day. -/
  toOrdinal_lt : ∀ a b : Date, a.OnCalendar → b.OnCalendar →
    (a.year < b.year ∨ a.year = b.year ∧ (a.month < b.month ∨ a.month = b.month ∧ a.day < b.day)) →
    a.toOrdinal < b.toOrdinal
  /-- `toordinal` undoes `fromordinal` on the ordinals 1 to 3652059. -/
  toordinal_fromordinal : ∀ (n : Int) (zs : Zones), 1 ≤ n → n ≤ 3652059 →
    ((callClass "date" "fromordinal" [.ofInt n] [] zs).bind fun o => callMethod o "toordinal" [] [] zs) =
      .ok (.ofInt n)
  /-- `fromordinal` undoes `toordinal` on the dates of the years 1 to 9999. -/
  fromordinal_toordinal : ∀ (d : Date) (zs : Zones), d.Valid →
    ((callMethod (.date d) "toordinal" [] [] zs).bind fun o => callClass "date" "fromordinal" [o] [] zs) =
      .ok (.date d)
  /-- Dates compare as their ordinals. -/
  compare_ordinals : ∀ (a b : Date) (name : String) (zs : Zones), a.Valid → b.Valid →
    name ∈ comparisonNames →
    callMethod (.date a) name [.date b] [] zs = .ok (comparisonAnswer name (compare a.toOrdinal b.toOrdinal))

theorem ordinal_count_bijective : OrdinalCountBijective where
  checks_pass := ofOrdinalChecked_eq
  ofOrdinal_onCalendar := Date.ofOrdinal_onCalendar
  toOrdinal_ofOrdinal := Date.toOrdinal_ofOrdinal
  ofOrdinal_toOrdinal _ h := Date.ofOrdinal_toOrdinal h
  toOrdinal_lt _ _ ha hb hlex := Date.toOrdinal_lt_of_lex ha hb hlex
  toordinal_fromordinal n zs h1 h2 := toordinal_fromordinal ⟨h1, h2⟩ zs
  fromordinal_toordinal d zs hd := fromordinal_toordinal hd zs
  compare_ordinals a b name zs ha hb hname := by
    rw [callMethod_date_compare hname, compareDates_eq ha.toOnCalendar hb.toOnCalendar]

/-- The ordinal 730120 is 1 January 2000: the procedure finds its date with
every check passed, the date is a day of the calendar that counts back to it,
the day before counts less and compares less, and `fromordinal` and
`toordinal` undo each other on the count and on the day. -/
theorem ordinal_new_year_2000 :
    Date.ofOrdinal 730120 = ⟨2000, 1, 1⟩ ∧ ofOrdinalChecked 730120 = some (ofOrdinal 730120) ∧
      (Date.ofOrdinal 730120).OnCalendar ∧ (Date.ofOrdinal 730120).toOrdinal = 730120 ∧
      Date.ofOrdinal (Date.toOrdinal ⟨2000, 1, 1⟩) = ⟨2000, 1, 1⟩ ∧
      Date.toOrdinal ⟨1999, 12, 31⟩ < Date.toOrdinal ⟨2000, 1, 1⟩ ∧
      callMethod (.date ⟨1999, 12, 31⟩) "__lt__" [.date ⟨2000, 1, 1⟩] [] #[] =
        .ok (comparisonAnswer "__lt__" (compare (Date.toOrdinal ⟨1999, 12, 31⟩) (Date.toOrdinal ⟨2000, 1, 1⟩))) ∧
      ((callClass "date" "fromordinal" [.ofInt 730120] [] #[]).bind fun o =>
        callMethod o "toordinal" [] [] #[]) = .ok (.ofInt 730120) ∧
      ((callMethod (.date ⟨2000, 1, 1⟩) "toordinal" [] [] #[]).bind fun o =>
        callClass "date" "fromordinal" [o] [] #[]) = .ok (.date ⟨2000, 1, 1⟩) :=
  ⟨by decide, ordinal_count_bijective.checks_pass 730120, ordinal_count_bijective.ofOrdinal_onCalendar 730120,
    ordinal_count_bijective.toOrdinal_ofOrdinal 730120, ordinal_count_bijective.ofOrdinal_toOrdinal _ (by decide),
    ordinal_count_bijective.toOrdinal_lt _ _ (by decide) (by decide) (by decide),
    ordinal_count_bijective.compare_ordinals _ _ "__lt__" #[] (by decide) (by decide) (by decide),
    ordinal_count_bijective.toordinal_fromordinal 730120 #[] (by decide) (by decide),
    ordinal_count_bijective.fromordinal_toordinal _ #[] (by decide)⟩

end Basis.Calendar
