import Mathlib.Tactic.Ring
import Basis.Calendar.Methods
import Basis.Proofs.Calendar.Duration
import Basis.Proofs.Calendar.Ordinal

/-!
# Arithmetic of dates and moments is exact

A date stands for its ordinal and a moment for its count of microseconds from
the start of the day before day one (`momentMicros`). This file shows that
the arithmetic of both classes is that of the counts:

* `Date.normalize_eq`: a day moved out of its month and brought back lands on
  the date of the ordinal, or fails with an `OverflowError` outside the
  ordinals 1 to 3652059 (`Date.atOrdinal`). Adding days to a date is that
  move (`Date.addDays_eq`).
* `normalizeMoment_lands`: the carries of a moment's fields keep its count of
  microseconds, so a moment plus a duration is the moment at the sum
  (`shiftMoment_lands`), kept in range or refused with an `OverflowError`.
* `fieldDiff_yields`: the difference of two moments' fields is the duration of
  the difference of their counts; `momentDiff` adds the difference of their
  zones' offsets when those differ.

`calendar_arithmetic_exact` states all of it through the methods of the
classes, the way a program calls them.
-/

namespace Basis.Calendar

/-! ## Running a calculation -/

theorem calc_bind {α β : Type} (x : Calc α) (f : α → Calc β) (zs : Zones) :
    (x >>= f) zs = (x zs).bind fun a => f a zs := rfl

theorem calc_lift {α : Type} (e : Except Failure α) (zs : Zones) :
    (monadLift e : Calc α) zs = e := rfl

theorem calc_pure {α : Type} (a : α) (zs : Zones) : (pure a : Calc α) zs = .ok a := rfl

theorem calc_throw {α : Type} (e : Failure) (zs : Zones) : (throw e : Calc α) zs = .error e := rfl

theorem calc_read (zs : Zones) : (read : Calc Zones) zs = .ok zs := rfl

/-! ## Dates -/

namespace Date

/-- A date the library makes: a day of the calendar in the years 1 to 9999. -/
structure Valid (d : Date) : Prop extends d.OnCalendar where
  /-- The year is at least 1. -/
  year_ge : minYear ≤ d.year
  /-- The year is at most 9999. -/
  year_le : d.year ≤ maxYear

theorem valid_iff (d : Date) : d.Valid ↔ d.OnCalendar ∧ minYear ≤ d.year ∧ d.year ≤ maxYear :=
  ⟨fun h => ⟨h.toOnCalendar, h.year_ge, h.year_le⟩, fun ⟨h, h1, h2⟩ => { h with year_ge := h1, year_le := h2 }⟩

instance (d : Date) : Decidable d.Valid := decidable_of_iff _ (valid_iff d).symm

theorem Valid.toOrdinal_mem {d : Date} (h : d.Valid) : 1 ≤ d.toOrdinal ∧ d.toOrdinal ≤ 3652059 :=
  (inRange_iff h.toOnCalendar).1 ⟨h.year_ge, h.year_le⟩

theorem ofOrdinal_valid {n : Int} (h : 1 ≤ n ∧ n ≤ 3652059) : (ofOrdinal n).Valid := by
  have hon := ofOrdinal_onCalendar n
  have hin := inRange_iff hon
  rw [toOrdinal_ofOrdinal] at hin
  exact { hon with year_ge := (hin.2 h).1, year_le := (hin.2 h).2 }

/-- The date of an ordinal, or an `OverflowError` outside the years 1 to 9999. -/
def atOrdinal (n : Int) : Except Failure Date :=
  if 1 ≤ n ∧ n ≤ 3652059 then .ok (ofOrdinal n) else .error (.overflowError "date value out of range")

/-- A day outside its month, brought back into the calendar, is the date of the
ordinal of the first of the month plus the days past it, refused outside the
years 1 to 9999. -/
theorem normalize_eq (y : Int) {m : Nat} (h1 : 1 ≤ m) (h2 : m ≤ 12) (d : Int) :
    normalize y m d = atOrdinal (ordinal y m 1 + (d - 1)) := by
  have hin := inRange_iff (ofOrdinal_onCalendar (ordinal y m 1 + (d - 1)))
  rw [toOrdinal_ofOrdinal] at hin
  unfold normalize atOrdinal
  rw [normalizeDate_eq y h1 h2]
  show (if minYear ≤ (ofOrdinal _).year && (ofOrdinal _).year ≤ maxYear then
    (.ok (ofOrdinal _) : Except Failure Date) else .error _) = _
  by_cases h : 1 ≤ ordinal y m 1 + (d - 1) ∧ ordinal y m 1 + (d - 1) ≤ 3652059
  · simp [h, hin.2 h]
  · rw [if_neg h, if_neg]
    simpa [← hin] using h

/-- Adding days to a day of the calendar adds them to its ordinal. -/
theorem addDays_eq {x : Date} (hx : x.OnCalendar) (k : Int) :
    x.addDays k = atOrdinal (x.toOrdinal + k) := by
  unfold addDays
  rw [normalize_eq x.year hx.month_pos hx.month_le]
  congr 1
  unfold toOrdinal ordinal
  omega

/-- The checked constructor accepts the fields of the date of an ordinal from 1
to 3652059. -/
theorem ofInts_ofOrdinal {n : Int} (h : 1 ≤ n ∧ n ≤ 3652059) :
    ofInts (Calendar.ofOrdinal n).1 (Calendar.ofOrdinal n).2.1 (Calendar.ofOrdinal n).2.2 =
      .ok (ofOrdinal n) := by
  obtain ⟨⟨hm1, hm2, hd1, hd2⟩, hy1, hy2⟩ := ofOrdinal_valid h
  change minYear ≤ (Calendar.ofOrdinal n).1 at hy1
  change (Calendar.ofOrdinal n).1 ≤ maxYear at hy2
  change 1 ≤ (Calendar.ofOrdinal n).2.1 at hm1
  change (Calendar.ofOrdinal n).2.1 ≤ 12 at hm2
  change 1 ≤ (Calendar.ofOrdinal n).2.2 at hd1
  change (Calendar.ofOrdinal n).2.2 ≤ daysInMonth (Calendar.ofOrdinal n).1 (Calendar.ofOrdinal n).2.1 at hd2
  unfold ofInts
  simp [hy1, hy2, hm1, hm2, hd1, hd2]
  rfl

/-- Two dates of the years 1 to 9999 are apart by the difference of their
ordinals, in whole days. -/
theorem dateDiff_eq {x y : Date} (hx : x.Valid) (hy : y.Valid) :
    dateDiff x y = .ok ⟨x.toOrdinal - y.toOrdinal, 0, 0⟩ := by
  have := hx.toOrdinal_mem
  have := hy.toOrdinal_mem
  have hd : (-Duration.maxDays ≤ x.toOrdinal - y.toOrdinal &&
      x.toOrdinal - y.toOrdinal ≤ Duration.maxDays) = true := by
    simp only [Bool.and_eq_true, decide_eq_true_eq]
    unfold Duration.maxDays
    omega
  simp only [dateDiff, Duration.make, Bool.false_eq_true, ↓reduceIte, hd]

end Date

/-! ## Moments -/

namespace Clock

/-- A time of day the library makes. -/
structure Valid (c : Clock) : Prop where
  /-- The hour is one of the 24. -/
  hour_nonneg : 0 ≤ c.hour
  /-- The hour is one of the 24. -/
  hour_lt : c.hour < 24
  /-- The minute is one of the 60. -/
  minute_nonneg : 0 ≤ c.minute
  /-- The minute is one of the 60. -/
  minute_lt : c.minute < 60
  /-- The second is one of the 60. -/
  second_nonneg : 0 ≤ c.second
  /-- The second is one of the 60. -/
  second_lt : c.second < 60
  /-- The microsecond lies within its second. -/
  micro_nonneg : 0 ≤ c.micro
  /-- The microsecond lies within its second. -/
  micro_lt : c.micro < 1000000

theorem valid_iff (c : Clock) :
    c.Valid ↔ 0 ≤ c.hour ∧ c.hour < 24 ∧ 0 ≤ c.minute ∧ c.minute < 60 ∧ 0 ≤ c.second ∧
      c.second < 60 ∧ 0 ≤ c.micro ∧ c.micro < 1000000 :=
  ⟨fun ⟨h1, h2, h3, h4, h5, h6, h7, h8⟩ => ⟨h1, h2, h3, h4, h5, h6, h7, h8⟩,
    fun ⟨h1, h2, h3, h4, h5, h6, h7, h8⟩ => ⟨h1, h2, h3, h4, h5, h6, h7, h8⟩⟩

instance (c : Clock) : Decidable c.Valid := decidable_of_iff _ (valid_iff c).symm

end Clock

/-- The microseconds from the start of the day before day one to a moment. -/
def momentMicros (d : Date) (c : Clock) : Int :=
  ((d.toOrdinal * 86400 + c.hour * 3600 + c.minute * 60 + c.second) * 1000000 + c.micro)

/-- The counts of the moments of the years 1 to 9999. -/
def MomentInRange (u : Int) : Prop := 86400000000 ≤ u ∧ u < 3652060 * 86400000000

/-- The outcome of moving a moment to a count of microseconds: the valid moment
of that count when the years 1 to 9999 hold it, else an `OverflowError`. -/
def Lands (r : Except Failure (Date × Clock)) (u : Int) : Prop :=
  (MomentInRange u → ∃ p : Date × Clock, r = .ok p ∧ p.1.Valid ∧ p.2.Valid ∧ momentMicros p.1 p.2 = u) ∧
    (¬MomentInRange u → r = .error (.overflowError "date value out of range"))

theorem momentMicros_mem {d : Date} {c : Clock} (hd : d.Valid) (hc : c.Valid) :
    MomentInRange (momentMicros d c) := by
  have := hd.toOrdinal_mem
  obtain ⟨h1, h2, h3, h4, h5, h6, h7, h8⟩ := hc
  unfold MomentInRange momentMicros
  omega

/-- A valid moment is determined by its count. -/
theorem eq_of_momentMicros_eq {d d' : Date} {c c' : Clock} (hd : d.Valid) (hd' : d'.Valid)
    (hc : c.Valid) (hc' : c'.Valid) (h : momentMicros d c = momentMicros d' c') : d = d' ∧ c = c' := by
  obtain ⟨h1, h2, h3, h4, h5, h6, h7, h8⟩ := hc
  obtain ⟨h1', h2', h3', h4', h5', h6', h7', h8'⟩ := hc'
  unfold momentMicros at h
  have hord : d.toOrdinal = d'.toOrdinal := by omega
  refine ⟨Date.toOrdinal_inj hd.toOnCalendar hd'.toOnCalendar hord, ?_⟩
  have hh : c.hour = c'.hour := by omega
  have hm : c.minute = c'.minute := by omega
  have hs : c.second = c'.second := by omega
  have hu : c.micro = c'.micro := by omega
  cases c; cases c'
  simp_all

/-- The date of an ordinal with a valid time of day lands at their count, unless
the ordinal leaves the years 1 to 9999. -/
theorem lands_checked (n : Int) {c : Clock} (hc : c.Valid) :
    Lands (if !false && !(minYear ≤ (Date.ofOrdinal n).year && (Date.ofOrdinal n).year ≤ maxYear)
      then .error (.overflowError "date value out of range") else .ok (Date.ofOrdinal n, c))
      (momentMicros (Date.ofOrdinal n) c) := by
  have hon := Date.ofOrdinal_onCalendar n
  have hin := Date.inRange_iff hon
  rw [Date.toOrdinal_ofOrdinal] at hin
  have hrange : MomentInRange (momentMicros (Date.ofOrdinal n) c) ↔ 1 ≤ n ∧ n ≤ 3652059 := by
    obtain ⟨h1, h2, h3, h4, h5, h6, h7, h8⟩ := hc
    unfold MomentInRange momentMicros
    rw [Date.toOrdinal_ofOrdinal]
    omega
  unfold Lands
  rw [hrange]
  constructor
  · intro hr
    refine ⟨(Date.ofOrdinal n, c), ?_, { hon with year_ge := (hin.2 hr).1, year_le := (hin.2 hr).2 }, hc, rfl⟩
    simp [hin.2 hr]
  · intro hr
    have hy := mt hin.1 hr
    rw [if_pos]
    simp only [Bool.not_false, Bool.true_and, Bool.not_eq_true', Bool.and_eq_false_iff,
      decide_eq_false_iff_not]
    omega

/-- Carrying a moment's fields keeps its count of microseconds: the result is
the moment at the count the fields give, or an `OverflowError` when it falls
outside the years 1 to 9999. -/
theorem normalizeMoment_lands (y : Int) {m : Nat} (h1 : 1 ≤ m) (h2 : m ≤ 12) (d hh mm ss us : Int) :
    Lands (normalizeMoment y m d hh mm ss us false)
      (((ordinal y m 1 + (d - 1)) * 86400 + hh * 3600 + mm * 60 + ss) * 1000000 + us) := by
  unfold normalizeMoment
  dsimp only
  -- the four carries, from microseconds up to days
  obtain ⟨e1, l1, u1⟩ := carry_spec ss us (f := 1000000) (by decide)
  generalize carry ss us 1000000 = p1 at e1 l1 u1 ⊢
  obtain ⟨e2, l2, u2⟩ := carry_spec mm p1.1 (f := 60) (by decide)
  generalize carry mm p1.1 60 = p2 at e2 l2 u2 ⊢
  obtain ⟨e3, l3, u3⟩ := carry_spec hh p2.1 (f := 60) (by decide)
  generalize carry hh p2.1 60 = p3 at e3 l3 u3 ⊢
  obtain ⟨e4, l4, u4⟩ := carry_spec d p3.1 (f := 24) (by decide)
  generalize carry d p3.1 24 = p4 at e4 l4 u4 ⊢
  rw [normalizeDate_eq y h1 h2]
  have hc : (⟨p4.2, p3.2, p2.2, p1.2⟩ : Clock).Valid := ⟨l4, u4, l3, u3, l2, u2, l1, u1⟩
  have hu : momentMicros (Date.ofOrdinal (ordinal y m 1 + (p4.1 - 1))) ⟨p4.2, p3.2, p2.2, p1.2⟩ =
      (((ordinal y m 1 + (d - 1)) * 86400 + hh * 3600 + mm * 60 + ss) * 1000000 + us) := by
    unfold momentMicros
    rw [Date.toOrdinal_ofOrdinal]
    dsimp only
    omega
  have key := lands_checked (ordinal y m 1 + (p4.1 - 1)) hc
  rw [hu] at key
  exact key

/-- A moment moved by a duration times a factor lands at its count plus the
duration's microseconds times the factor. -/
theorem shiftMoment_lands {d : Date} (hd : d.OnCalendar) (c : Clock) (t : Duration) (f : Int) :
    Lands (shiftMoment d c t f) (momentMicros d c + f * t.toMicros) := by
  have h := normalizeMoment_lands d.year hd.month_pos hd.month_le (d.day + t.days * f) c.hour
    c.minute (c.second + t.seconds * f) (c.micro + t.micros * f)
  have hu : (((ordinal d.year d.month 1 + (d.day + t.days * f - 1)) * 86400 + c.hour * 3600 +
      c.minute * 60 + (c.second + t.seconds * f)) * 1000000 + (c.micro + t.micros * f)) =
      momentMicros d c + f * t.toMicros := by
    have ho : ordinal d.year d.month 1 + (d.day + t.days * f - 1) = d.toOrdinal + t.days * f := by
      unfold Date.toOrdinal ordinal
      omega
    rw [ho]
    unfold momentMicros Duration.toMicros
    ring
  rw [hu] at h
  exact h

/-- The difference of two moments' fields is the duration of the difference of
their counts. -/
theorem fieldDiff_yields (d1 : Date) (c1 : Clock) (d2 : Date) (c2 : Clock) :
    Duration.Yields (fieldDiff d1 c1 d2 c2) (momentMicros d1 c1 - momentMicros d2 c2) := by
  have e : momentMicros d1 c1 - momentMicros d2 c2 =
      ((d1.toOrdinal - d2.toOrdinal) * 86400 +
        ((c1.hour - c2.hour) * 3600 + (c1.minute - c2.minute) * 60 + (c1.second - c2.second))) *
        1000000 + (c1.micro - c2.micro) := by
    unfold momentMicros
    omega
  rw [e]
  exact Duration.make_carry_yields _ _ _

/-- Two moments of the years 1 to 9999 are less than a duration's reach apart. -/
theorem inRange_sub {u v : Int} (hu : MomentInRange u) (hv : MomentInRange v) :
    Duration.InRange (u - v) := by
  rw [Duration.inRange_iff]
  unfold MomentInRange at hu hv
  simp only [Duration.maxDays]
  omega

/-- The difference of two moments of the years 1 to 9999, zones aside, is the
valid duration of the difference of their counts. -/
theorem fieldDiff_exact {d1 d2 : Date} {c1 c2 : Clock} (hd1 : d1.Valid) (hc1 : c1.Valid)
    (hd2 : d2.Valid) (hc2 : c2.Valid) :
    ∃ δ, fieldDiff d1 c1 d2 c2 = .ok δ ∧ δ.Valid ∧ δ.toMicros = momentMicros d1 c1 - momentMicros d2 c2 :=
  (fieldDiff_yields d1 c1 d2 c2).1 (inRange_sub (momentMicros_mem hd1 hc1) (momentMicros_mem hd2 hc2))

/-! ## Offsets of zones -/

/-- Only a count of minutes inside a day either way passes the check of an offset. -/
theorem checkedMinutes_bounds {q : String} {x : Int} {zs : Zones} {m : Int}
    (h : (if (decide (-1440 < x) && decide (x < 1440)) = true then pure (some x) else do
      throw (Failure.valueError
        (toString q ++ toString "()=" ++ toString x ++ toString ", must be in -1439..1439"))
      pure (some x) : Calc (Option Int)) zs = .ok (some m)) : -1440 < m ∧ m < 1440 := by
  split at h
  · next hx =>
    simp only [calc_pure, Except.ok.injEq, Option.some.injEq] at h
    simp only [Bool.and_eq_true, decide_eq_true_eq] at hx
    omega
  · simp [calc_bind, calc_throw, Except.bind] at h

theorem offsetMinutes_bounds {q : String} {o : Object} {zs : Zones} {m : Int}
    (h : offsetMinutes q o zs = .ok (some m)) : -1440 < m ∧ m < 1440 := by
  unfold offsetMinutes at h
  split at h
  · cases h
  · -- a duration: more than a day either way, or a whole number of minutes, then checked
    simp only [pure_bind] at h
    split at h
    · exact checkedMinutes_bounds h
    split at h
    · simp [calc_bind, calc_throw, Except.bind] at h
    · exact checkedMinutes_bounds h
  · simp [calc_bind, calc_throw, calc_read, Except.bind] at h

/-- The offset a zone answers is less than a day either way. -/
theorem zoneMinutes_bounds {z : Option Nat} {q : String} {zs : Zones} {m : Int}
    (h : zoneMinutes z q zs = .ok (some m)) : -1440 < m ∧ m < 1440 := by
  cases z with
  | none => cases h
  | some id =>
    simp only [zoneMinutes, calc_bind] at h
    cases ha : askZone id q zs with
    | error e => simp [ha, Except.bind] at h
    | ok o =>
      simp only [ha, Except.bind] at h
      exact offsetMinutes_bounds h

/-! ## Differences of moments -/

theorem momentDiff_same_zone (d1 : Date) (c1 : Clock) (z : Option Nat) (d2 : Date) (c2 : Clock)
    (zs : Zones) : momentDiff d1 c1 z d2 c2 z zs = fieldDiff d1 c1 d2 c2 := by
  simp only [momentDiff, calc_bind, calc_lift, calc_pure, beq_self_eq_true, if_true]
  cases fieldDiff d1 c1 d2 c2 <;> rfl

theorem momentDiff_equal_offsets {d1 : Date} {c1 : Clock} {z1 : Option Nat} {d2 : Date}
    {c2 : Clock} {z2 : Option Nat} {zs : Zones} {o : Option Int}
    (h1 : zoneMinutes z1 "utcoffset" zs = .ok o) (h2 : zoneMinutes z2 "utcoffset" zs = .ok o) :
    momentDiff d1 c1 z1 d2 c2 z2 zs = fieldDiff d1 c1 d2 c2 := by
  simp only [momentDiff, calc_bind, calc_lift]
  cases fieldDiff d1 c1 d2 c2 with
  | error e => rfl
  | ok base =>
    simp only [Except.bind]
    split
    · rfl
    · simp only [calc_bind, h1, h2, Except.bind, beq_self_eq_true, if_true, calc_pure]

theorem momentDiff_offsets {d1 : Date} {c1 : Clock} {z1 : Option Nat} {d2 : Date} {c2 : Clock}
    {z2 : Option Nat} {zs : Zones} {a b : Int} (h1 : zoneMinutes z1 "utcoffset" zs = .ok (some a))
    (h2 : zoneMinutes z2 "utcoffset" zs = .ok (some b)) (hab : a ≠ b) :
    momentDiff d1 c1 z1 d2 c2 z2 zs = (fieldDiff d1 c1 d2 c2).bind fun base =>
      (Duration.ofMicros ((b - a) * 60000000)).bind base.add := by
  -- one zone answers one offset, so the zones differ
  have hz : (z1 == z2) = false := by
    rw [beq_eq_false_iff_ne]
    rintro rfl
    rw [h1] at h2
    cases h2
    exact hab rfl
  have hne : (some a == some b) = false := by simpa using hab
  simp only [momentDiff, calc_bind, calc_lift]
  cases fieldDiff d1 c1 d2 c2 with
  | error e => rfl
  | ok base =>
    simp only [Except.bind, hz, Bool.false_eq_true, ↓reduceIte, calc_bind, h1, h2, hne]
    cases Duration.ofMicros ((b - a) * 60000000) <;> rfl

/-- Two moments of the years 1 to 9999 whose zones answer the offsets `a` and
`b` are apart by their counts less their offsets. -/
theorem momentDiff_offsets_exact {d1 d2 : Date} {c1 c2 : Clock} (hd1 : d1.Valid) (hc1 : c1.Valid)
    (hd2 : d2.Valid) (hc2 : c2.Valid) {z1 z2 : Option Nat} {zs : Zones} {a b : Int}
    (h1 : zoneMinutes z1 "utcoffset" zs = .ok (some a))
    (h2 : zoneMinutes z2 "utcoffset" zs = .ok (some b)) :
    ∃ δ, momentDiff d1 c1 z1 d2 c2 z2 zs = .ok δ ∧ δ.Valid ∧
      δ.toMicros = (momentMicros d1 c1 - 60000000 * a) - (momentMicros d2 c2 - 60000000 * b) := by
  obtain ⟨base, hbase, hvb, hub⟩ := fieldDiff_exact hd1 hc1 hd2 hc2
  by_cases hab : a = b
  · subst hab
    rw [momentDiff_equal_offsets h1 h2, hbase]
    exact ⟨base, rfl, hvb, by omega⟩
  -- the correction by the offsets is under two days, and the sum stays in reach
  have ha := zoneMinutes_bounds h1
  have hb := zoneMinutes_bounds h2
  have hr1 := momentMicros_mem hd1 hc1
  have hr2 := momentMicros_mem hd2 hc2
  unfold MomentInRange at hr1 hr2
  obtain ⟨off, hoff, hvo, huo⟩ := (Duration.ofMicros_yields ((b - a) * 60000000)).1 (by
    rw [Duration.inRange_iff]
    simp only [Duration.maxDays]
    omega)
  obtain ⟨δ, hδ, hvδ, huδ⟩ := (Duration.add_yields base off).1 (by
    rw [Duration.inRange_iff, hub, huo]
    simp only [Duration.maxDays]
    omega)
  rw [momentDiff_offsets h1 h2 hab, hbase]
  refine ⟨δ, ?_, hvδ, ?_⟩
  · simp only [Except.bind, hoff, hδ]
  · rw [huδ, hub, huo]
    omega

/-! ## The methods -/

theorem callMethod_date_add (x : Date) (k : Duration) (zs : Zones) :
    callMethod (.date x) "__add__" [.delta k] [] zs = (x.addDays k.days).map .date := by
  rfl

theorem callMethod_date_sub_delta (x : Date) (k : Duration) (zs : Zones) :
    callMethod (.date x) "__sub__" [.delta k] [] zs = (x.addDays (-k.days)).map .date := by
  rfl

theorem callMethod_date_sub_date (x y : Date) (zs : Zones) :
    callMethod (.date x) "__sub__" [.date y] [] zs = (dateDiff x y).map .delta := by
  rfl

theorem callClass_fromordinal (n : Int) (zs : Zones) :
    callClass "date" "fromordinal" [.ofInt n] [] zs =
      (Date.ofInts (ofOrdinal n).1 (ofOrdinal n).2.1 (ofOrdinal n).2.2).map .date := by
  rfl

theorem callMethod_moment_add (d : Date) (c : Clock) (z : Option Nat) (k : Duration) (zs : Zones) :
    callMethod (.moment d c z) "__add__" [.delta k] [] zs =
      (shiftMoment d c k 1).map fun p => .moment p.1 p.2 z := by
  rfl

theorem callMethod_moment_sub_delta (d : Date) (c : Clock) (z : Option Nat) (k : Duration)
    (zs : Zones) :
    callMethod (.moment d c z) "__sub__" [.delta k] [] zs =
      (shiftMoment d c k (-1)).map fun p => .moment p.1 p.2 z := by
  rfl

theorem callMethod_moment_sub_moment (d : Date) (c : Clock) (z : Option Nat) (d2 : Date) (c2 : Clock)
    (z2 : Option Nat) (zs : Zones) :
    callMethod (.moment d c z) "__sub__" [.moment d2 c2 z2] [] zs =
      (momentDiff d c z d2 c2 z2 zs).map .delta := by
  rfl

/-- A date plus days is the date `fromordinal` gives for its ordinal plus the
days, refused with an `OverflowError` outside the ordinals 1 to 3652059. -/
theorem addDays_fromordinal {x : Date} (hx : x.OnCalendar) (n : Int) (zs : Zones) :
    (x.addDays n).map .date =
      if 1 ≤ x.toOrdinal + n ∧ x.toOrdinal + n ≤ 3652059 then
        callClass "date" "fromordinal" [.ofInt (x.toOrdinal + n)] [] zs
      else .error (.overflowError "date value out of range") := by
  rw [Date.addDays_eq hx, Date.atOrdinal]
  split
  · next h => rw [callClass_fromordinal, Date.ofInts_ofOrdinal h]
  · rfl

/-- The outcome of moving a moment of zone `z` to a count of microseconds: the
valid moment of that count, still in zone `z`, when the years 1 to 9999 hold
it, else an `OverflowError`. -/
def MovesTo (r : Except Failure Object) (z : Option Nat) (u : Int) : Prop :=
  (MomentInRange u → ∃ d c, r = .ok (.moment d c z) ∧ d.Valid ∧ c.Valid ∧ momentMicros d c = u) ∧
    (¬MomentInRange u → r = .error (.overflowError "date value out of range"))

theorem Lands.movesTo {r : Except Failure (Date × Clock)} {u : Int} (h : Lands r u) (z : Option Nat) :
    MovesTo (r.map fun p => .moment p.1 p.2 z) z u := by
  constructor
  · intro hu
    obtain ⟨p, hp, hd, hc, hm⟩ := h.1 hu
    exact ⟨p.1, p.2, by rw [hp]; rfl, hd, hc, hm⟩
  · intro hu
    rw [h.2 hu]
    rfl

theorem moment_add_movesTo {d : Date} (hd : d.OnCalendar) (c : Clock) (z : Option Nat) (k : Duration)
    (zs : Zones) :
    MovesTo (callMethod (.moment d c z) "__add__" [.delta k] [] zs) z (momentMicros d c + k.toMicros) := by
  have h := shiftMoment_lands hd c k 1
  rw [Int.one_mul] at h
  rw [callMethod_moment_add]
  exact h.movesTo z

theorem moment_sub_movesTo {d : Date} (hd : d.OnCalendar) (c : Clock) (z : Option Nat) (k : Duration)
    (zs : Zones) :
    MovesTo (callMethod (.moment d c z) "__sub__" [.delta k] [] zs) z (momentMicros d c - k.toMicros) := by
  have h := shiftMoment_lands hd c k (-1)
  rw [Int.neg_one_mul, ← Int.sub_eq_add_neg] at h
  rw [callMethod_moment_sub_delta]
  exact h.movesTo z

/-! ## The arithmetic as a program calls it -/

/-- What exact arithmetic means for the dates `x` and `y`, the moments `(x, c)`
in zone `z` and `(y, e)` in zone `z` or `w`, and the duration `k`, with the
zones answering from `zs`. -/
structure ExactCalendarArithmetic (x y : Date) (c e : Clock) (z w : Option Nat) (k : Duration)
    (zs : Zones) : Prop where
  /-- A date plus a duration is the date of its ordinal plus the duration's days. -/
  date_add : callMethod (.date x) "__add__" [.delta k] [] zs =
    if 1 ≤ x.toOrdinal + k.days ∧ x.toOrdinal + k.days ≤ 3652059 then
      callClass "date" "fromordinal" [.ofInt (x.toOrdinal + k.days)] [] zs
    else .error (.overflowError "date value out of range")
  /-- A date less a duration is the date of its ordinal less the duration's days. -/
  date_sub : callMethod (.date x) "__sub__" [.delta k] [] zs =
    if 1 ≤ x.toOrdinal - k.days ∧ x.toOrdinal - k.days ≤ 3652059 then
      callClass "date" "fromordinal" [.ofInt (x.toOrdinal - k.days)] [] zs
    else .error (.overflowError "date value out of range")
  /-- Two dates are apart by the difference of their ordinals. -/
  date_diff : callMethod (.date x) "__sub__" [.date y] [] zs =
    .ok (.delta ⟨x.toOrdinal - y.toOrdinal, 0, 0⟩)
  /-- A moment plus a duration is the moment at the sum of their counts, in the same zone. -/
  moment_add : MovesTo (callMethod (.moment x c z) "__add__" [.delta k] [] zs) z
    (momentMicros x c + k.toMicros)
  /-- A moment less a duration is the moment at the difference of their counts, in the same zone. -/
  moment_sub : MovesTo (callMethod (.moment x c z) "__sub__" [.delta k] [] zs) z
    (momentMicros x c - k.toMicros)
  /-- Two moments of one zone are apart by the difference of their counts. -/
  diff_same_zone : ∃ δ, callMethod (.moment x c z) "__sub__" [.moment y e z] [] zs = .ok (.delta δ) ∧
    δ.Valid ∧ δ.toMicros = momentMicros x c - momentMicros y e
  /-- So are two moments whose zones answer one offset. -/
  diff_equal_offsets : ∀ o, zoneMinutes z "utcoffset" zs = .ok o → zoneMinutes w "utcoffset" zs = .ok o →
    ∃ δ, callMethod (.moment x c z) "__sub__" [.moment y e w] [] zs = .ok (.delta δ) ∧
      δ.Valid ∧ δ.toMicros = momentMicros x c - momentMicros y e
  /-- Two moments whose zones answer offsets are apart by their counts less the offsets. -/
  diff_offsets : ∀ a b : Int, zoneMinutes z "utcoffset" zs = .ok (some a) →
    zoneMinutes w "utcoffset" zs = .ok (some b) →
    ∃ δ, callMethod (.moment x c z) "__sub__" [.moment y e w] [] zs = .ok (.delta δ) ∧
      δ.Valid ∧ δ.toMicros = (momentMicros x c - 60000000 * a) - (momentMicros y e - 60000000 * b)
  /-- A moment of the zone plus the difference to it from another is the other. -/
  add_diff : ((callMethod (.moment x c z) "__sub__" [.moment y e z] [] zs).bind fun δ =>
    callMethod (.moment y e z) "__add__" [δ] [] zs) = .ok (.moment x c z)

theorem diff_same_zone_exact {x y : Date} {c e : Clock} (hx : x.Valid) (hy : y.Valid) (hc : c.Valid)
    (he : e.Valid) (z : Option Nat) (zs : Zones) :
    ∃ δ, callMethod (.moment x c z) "__sub__" [.moment y e z] [] zs = .ok (.delta δ) ∧
      δ.Valid ∧ δ.toMicros = momentMicros x c - momentMicros y e := by
  obtain ⟨δ, hδ, hv, hu⟩ := fieldDiff_exact hx hc hy he
  rw [callMethod_moment_sub_moment, momentDiff_same_zone, hδ]
  exact ⟨δ, rfl, hv, hu⟩

theorem calendar_arithmetic_exact {x y : Date} {c e : Clock} (hx : x.Valid) (hy : y.Valid)
    (hc : c.Valid) (he : e.Valid) (z w : Option Nat) (k : Duration) (zs : Zones) :
    ExactCalendarArithmetic x y c e z w k zs where
  date_add := by
    rw [callMethod_date_add, addDays_fromordinal hx.toOnCalendar]
  date_sub := by
    rw [callMethod_date_sub_delta, addDays_fromordinal hx.toOnCalendar, ← Int.sub_eq_add_neg]
  date_diff := by
    rw [callMethod_date_sub_date, Date.dateDiff_eq hx hy]
    rfl
  moment_add := moment_add_movesTo hx.toOnCalendar c z k zs
  moment_sub := moment_sub_movesTo hx.toOnCalendar c z k zs
  diff_same_zone := diff_same_zone_exact hx hy hc he z zs
  diff_equal_offsets := fun o h1 h2 => by
    obtain ⟨δ, hδ, hv, hu⟩ := fieldDiff_exact hx hc hy he
    rw [callMethod_moment_sub_moment, momentDiff_equal_offsets h1 h2, hδ]
    exact ⟨δ, rfl, hv, hu⟩
  diff_offsets := fun a b h1 h2 => by
    obtain ⟨δ, hδ, hv, hu⟩ := momentDiff_offsets_exact hx hc hy he h1 h2
    rw [callMethod_moment_sub_moment, hδ]
    exact ⟨δ, rfl, hv, hu⟩
  add_diff := by
    obtain ⟨δ, hδ, -, hu⟩ := diff_same_zone_exact hx hy hc he z zs
    rw [hδ]
    -- adding the difference lands on the count of `(x, c)`, which only `(x, c)` has
    have hm := moment_add_movesTo hy.toOnCalendar e z δ zs
    rw [hu, show momentMicros y e + (momentMicros x c - momentMicros y e) = momentMicros x c by omega]
      at hm
    obtain ⟨d', c', hr, hd', hc', hu'⟩ := hm.1 (momentMicros_mem hx hc)
    obtain ⟨rfl, rfl⟩ := eq_of_momentMicros_eq hd' hx hc' hc hu'
    exact hr

theorem calendar_arithmetic_exact_leap_day :
    Date.Valid ⟨2000, 2, 29⟩ ∧ Date.Valid ⟨1999, 12, 31⟩ ∧ Clock.Valid ⟨23, 59, 59, 999999⟩ ∧
      Clock.Valid ⟨0, 0, 0, 0⟩ ∧
      ExactCalendarArithmetic ⟨2000, 2, 29⟩ ⟨1999, 12, 31⟩ ⟨23, 59, 59, 999999⟩ ⟨0, 0, 0, 0⟩ none (some 0)
        ⟨-1, 86399, 1⟩ #[] :=
  ⟨by decide, by decide, by decide, by decide,
    calendar_arithmetic_exact (by decide) (by decide) (by decide) (by decide) none (some 0) ⟨-1, 86399, 1⟩ #[]⟩

end Basis.Calendar
