import Mathlib.Tactic.Linarith
import Basis.Proofs.Calendar.Arithmetic

/-!
# Comparing moments of two zones

A moment whose zone answers an offset stands for an instant: its count of
microseconds less the offset (`utcMicros`). This file shows how the six
comparisons of moments order instants.

* `compareKeys_momentKey`: comparing the fields of two moments of the years 1
  to 9999, year first and microsecond last, orders their counts. The date
  part rests on `Date.compare_fields`: the ordinal grows with the date taken
  year, month, day.
* `compareMoments_offsets`: two moments whose zones answer offsets compare as
  their instants when the offsets agree. When the offsets differ, only the
  sign of the days of their difference is read, so a moment that is not
  earlier is greater, and two moments at one instant are not equal.
* `moment_comparisons`: the comparison methods answer from that order. Hence
  `__lt__` and `__ge__` always agree with the instants, while `__eq__` holds
  exactly when the instants and the offsets are both equal
  (`moment_eq_iff_instant_and_offset`).
-/

namespace Basis.Calendar

/-! ## Lexicographic order and counts -/

theorem compareKeys_cons (a b : Int) (as bs : List Int) :
    compareKeys (a :: as) (b :: bs) = (compare a b).then (compareKeys as bs) := by
  rcases lt_trichotomy a b with h | rfl | h
  · simp [compareKeys, h, compare_lt_iff_lt.2 h]
  · simp [compareKeys]
  · simp [compareKeys, h, not_lt.2 h.le, compare_gt_iff_gt.2 h]

/-- A leading field compared first, then a remainder below `M`, orders the sum
with the field weighted by `M`. -/
theorem compare_then_weighted {a b r s M : Int} (hr : 0 ≤ r ∧ r < M) (hs : 0 ≤ s ∧ s < M) :
    (compare a b).then (compare r s) = compare (a * M + r) (b * M + s) := by
  rcases lt_trichotomy a b with h | rfl | h
  · have : a * M + r < b * M + s := by nlinarith
    rw [compare_lt_iff_lt.2 h, compare_lt_iff_lt.2 this, Ordering.lt_then]
  · rw [compare_eq_iff_eq.2 rfl, Ordering.eq_then]
    rcases lt_trichotomy r s with h | rfl | h
    · rw [compare_lt_iff_lt.2 h, compare_lt_iff_lt.2 (by omega)]
    · rw [compare_eq_iff_eq.2 rfl, compare_eq_iff_eq.2 rfl]
    · rw [compare_gt_iff_gt.2 h, compare_gt_iff_gt.2 (by omega)]
  · have : b * M + s < a * M + r := by nlinarith
    rw [compare_gt_iff_gt.2 h, compare_gt_iff_gt.2 this, Ordering.gt_then]

namespace Date

/-- A later date, taken year, month, day, has a larger ordinal. -/
theorem toOrdinal_lt_of_lex {a b : Date} (ha : a.OnCalendar) (hb : b.OnCalendar)
    (h : a.year < b.year ∨ a.year = b.year ∧ (a.month < b.month ∨ a.month = b.month ∧ a.day < b.day)) :
    a.toOrdinal < b.toOrdinal := by
  have hba := ha.toOrdinal_bounds
  have hbb := hb.toOrdinal_bounds
  rcases h with hy | ⟨hy, hm | ⟨hm, hd⟩⟩
  · -- the earlier year ends before the later one starts
    have := daysBeforeYear_mono (show a.year + 1 ≤ b.year by omega)
    omega
  · -- within one year, the earlier month ends before the later one starts
    have := daysBeforeMonth_add_daysInMonth_le b.year ha.month_pos hm hb.month_le
    have := ha.day_le
    have := hb.day_pos
    unfold toOrdinal ordinal
    rw [hy] at *
    omega
  · unfold toOrdinal ordinal
    rw [hy, hm]
    omega

/-- Comparing two days of the calendar field by field compares their ordinals. -/
theorem compare_fields {a b : Date} (ha : a.OnCalendar) (hb : b.OnCalendar) :
    (compare a.year b.year).then ((compare (a.month : Int) b.month).then (compare (a.day : Int) b.day)) =
      compare a.toOrdinal b.toOrdinal := by
  cases h : (compare a.year b.year).then
      ((compare (a.month : Int) b.month).then (compare (a.day : Int) b.day)) with
  | lt =>
    simp only [Ordering.then_eq_lt, compare_lt_iff_lt, compare_eq_iff_eq, Nat.cast_lt,
      Nat.cast_inj] at h
    exact (compare_lt_iff_lt.2 (toOrdinal_lt_of_lex ha hb h)).symm
  | eq =>
    simp only [Ordering.then_eq_eq, compare_eq_iff_eq, Nat.cast_inj] at h
    obtain ⟨hy, hm, hd⟩ := h
    have hab : a = b := by
      cases a
      cases b
      simp_all
    rw [hab, compare_eq_iff_eq.2 rfl]
  | gt =>
    simp only [Ordering.then_eq_gt, compare_gt_iff_gt, compare_eq_iff_eq, Nat.cast_lt,
      Nat.cast_inj] at h
    have h' : b.year < a.year ∨ b.year = a.year ∧
        (b.month < a.month ∨ b.month = a.month ∧ b.day < a.day) := by
      omega
    exact (compare_gt_iff_gt.2 (toOrdinal_lt_of_lex hb ha h')).symm

end Date

/-- The microseconds of a time of day since its midnight. -/
def clockMicros (c : Clock) : Int := ((c.hour * 60 + c.minute) * 60 + c.second) * 1000000 + c.micro

theorem clockMicros_mem {c : Clock} (hc : c.Valid) : 0 ≤ clockMicros c ∧ clockMicros c < 86400000000 := by
  obtain ⟨h1, h2, h3, h4, h5, h6, h7, h8⟩ := hc
  unfold clockMicros
  omega

/-- Comparing two valid times of day field by field compares their microseconds. -/
theorem compare_clock_fields {c e : Clock} (hc : c.Valid) (he : e.Valid) :
    (compare c.hour e.hour).then ((compare c.minute e.minute).then
      ((compare c.second e.second).then (compare c.micro e.micro))) =
      compare (clockMicros c) (clockMicros e) := by
  obtain ⟨h1, h2, h3, h4, h5, h6, h7, h8⟩ := hc
  obtain ⟨h1', h2', h3', h4', h5', h6', h7', h8'⟩ := he
  -- fold in the fields from the microsecond up, each weighted by the span below it
  rw [compare_then_weighted (M := 1000000) ⟨h7, h8⟩ ⟨h7', h8'⟩,
    compare_then_weighted (M := 60000000) (by omega) (by omega),
    compare_then_weighted (M := 3600000000) (by omega) (by omega)]
  unfold clockMicros
  congr 1 <;> ring

theorem momentMicros_eq (d : Date) (c : Clock) :
    momentMicros d c = d.toOrdinal * 86400000000 + clockMicros c := by
  unfold momentMicros clockMicros
  ring

/-- Comparing the fields of two moments of the years 1 to 9999 compares their
counts of microseconds. -/
theorem compareKeys_momentKey {d1 d2 : Date} {c1 c2 : Clock} (hd1 : d1.OnCalendar)
    (hc1 : c1.Valid) (hd2 : d2.OnCalendar) (hc2 : c2.Valid) :
    compareKeys (momentKey d1 c1) (momentKey d2 c2) = compare (momentMicros d1 c1) (momentMicros d2 c2) := by
  simp only [momentKey, compareKeys_cons]
  rw [show compareKeys [] [] = .eq from rfl, Ordering.then_eq, compare_clock_fields hc1 hc2,
    ← Ordering.then_assoc (compare (d1.month : Int) d2.month),
    ← Ordering.then_assoc (compare d1.year d2.year), Date.compare_fields hd1 hd2,
    compare_then_weighted (clockMicros_mem hc1) (clockMicros_mem hc2), momentMicros_eq, momentMicros_eq]

/-! ## Moments of zones with offsets -/

/-- The instant of a moment whose zone is `offset` minutes ahead of universal
time, in microseconds. -/
def utcMicros (d : Date) (c : Clock) (offset : Int) : Int := momentMicros d c - 60000000 * offset

/-- A zone that answers an offset is a zone. -/
theorem isSome_of_zoneMinutes {z : Option Nat} {zs : Zones} {a : Int}
    (h : zoneMinutes z "utcoffset" zs = .ok (some a)) : z.isSome = true := by
  cases z with
  | none => cases h
  | some _ => rfl

/-- Two moments whose zones answer offsets compare as their instants when the
offsets agree; when they differ, an earlier instant is less and any other is
greater. -/
theorem compareMoments_offsets {d1 d2 : Date} {c1 c2 : Clock} (hd1 : d1.Valid) (hc1 : c1.Valid)
    (hd2 : d2.Valid) (hc2 : c2.Valid) {z1 z2 : Option Nat} {zs : Zones} {a b : Int}
    (h1 : zoneMinutes z1 "utcoffset" zs = .ok (some a))
    (h2 : zoneMinutes z2 "utcoffset" zs = .ok (some b)) :
    compareMoments d1 c1 z1 d2 c2 z2 zs =
      .ok (if a = b then compare (utcMicros d1 c1 a) (utcMicros d2 c2 b)
        else if utcMicros d1 c1 a < utcMicros d2 c2 b then .lt else .gt) := by
  have hbase := compareKeys_momentKey hd1.toOnCalendar hc1 hd2.toOnCalendar hc2
  -- with one offset, the instants are the counts moved by the same amount
  have hshift : ∀ k, compare (momentMicros d1 c1) (momentMicros d2 c2) =
      compare (momentMicros d1 c1 - k) (momentMicros d2 c2 - k) := by
    intro k
    rcases lt_trichotomy (momentMicros d1 c1) (momentMicros d2 c2) with h | h | h
    · rw [compare_lt_iff_lt.2 h, compare_lt_iff_lt.2 (by omega)]
    · rw [compare_eq_iff_eq.2 h, compare_eq_iff_eq.2 (by omega)]
    · rw [compare_gt_iff_gt.2 h, compare_gt_iff_gt.2 (by omega)]
  by_cases hz : z1 = z2
  · -- one zone answers one offset
    subst hz
    obtain rfl : a = b := by
      rw [h1] at h2
      cases h2
      rfl
    simp only [compareMoments, beq_self_eq_true, ↓reduceIte, calc_pure, hbase, utcMicros]
    rw [← hshift]
  have hzf : (z1 == z2) = false := beq_eq_false_iff_ne.2 hz
  simp only [compareMoments, hzf, isSome_of_zoneMinutes h1, isSome_of_zoneMinutes h2,
    Bool.false_eq_true, ↓reduceIte]
  rw [calc_bind, h1]
  simp only [Except.bind]
  rw [calc_bind, h2]
  by_cases hab : a = b
  · subst hab
    simp only [Except.bind, beq_self_eq_true, ↓reduceIte, calc_pure, hbase, utcMicros]
    rw [← hshift]
  -- different offsets: the sign of the difference's days decides
  have hne : (some a == some b) = false := by simpa using hab
  obtain ⟨δ, hδ, hvδ, huδ⟩ := momentDiff_offsets_exact hd1 hc1 hd2 hc2 h1 h2
  simp only [Except.bind, hne, Option.isNone_some, Bool.or_false, Bool.false_eq_true, ↓reduceIte,
    calc_bind, hδ, calc_pure, hab]
  have hsign : δ.days < 0 ↔ utcMicros d1 c1 a < utcMicros d2 c2 b := by
    rw [← Duration.toMicros_neg_iff hvδ, huδ]
    unfold utcMicros
    omega
  simp only [hsign]

/-! ## The comparison methods -/

/-- The six comparison methods. -/
def comparisonNames : List String := ["__eq__", "__ne__", "__lt__", "__le__", "__gt__", "__ge__"]

/-- The comparison methods of a moment, given another moment, answer from
`compareMoments`. -/
theorem callMethod_moment_compare {name : String} (hname : name ∈ comparisonNames) (d1 : Date)
    (c1 : Clock) (z1 : Option Nat) (d2 : Date) (c2 : Clock) (z2 : Option Nat) (zs : Zones) :
    callMethod (.moment d1 c1 z1) name [.moment d2 c2 z2] [] zs =
      (compareMoments d1 c1 z1 d2 c2 z2 zs).map (comparisonAnswer name) := by
  simp only [comparisonNames, List.mem_cons, List.not_mem_nil, or_false] at hname
  rcases hname with rfl | rfl | rfl | rfl | rfl | rfl <;> rfl

/-- The comparisons of two aware moments of the years 1 to 9999 answer from the
order of their instants, except that two moments at one instant whose offsets
differ answer as if the first were later. -/
theorem moment_comparisons {name : String} (hname : name ∈ comparisonNames) {d1 d2 : Date}
    {c1 c2 : Clock} (hd1 : d1.Valid) (hc1 : c1.Valid) (hd2 : d2.Valid) (hc2 : c2.Valid)
    {z1 z2 : Option Nat} {zs : Zones} {a b : Int} (h1 : zoneMinutes z1 "utcoffset" zs = .ok (some a))
    (h2 : zoneMinutes z2 "utcoffset" zs = .ok (some b)) :
    callMethod (.moment d1 c1 z1) name [.moment d2 c2 z2] [] zs =
      .ok (comparisonAnswer name
        (if utcMicros d1 c1 a < utcMicros d2 c2 b then .lt
          else if utcMicros d1 c1 a = utcMicros d2 c2 b ∧ a = b then .eq else .gt)) := by
  rw [callMethod_moment_compare hname, compareMoments_offsets hd1 hc1 hd2 hc2 h1 h2]
  show Except.ok (comparisonAnswer name _) = _
  congr 2
  by_cases hab : a = b
  · subst hab
    rw [if_pos rfl]
    rcases lt_trichotomy (utcMicros d1 c1 a) (utcMicros d2 c2 a) with h | h | h
    · rw [if_pos h, compare_lt_iff_lt.2 h]
    · rw [if_neg (by omega), if_pos ⟨h, rfl⟩, compare_eq_iff_eq.2 h]
    · rw [if_neg (not_lt.2 h.le), if_neg (fun e => h.ne' e.1), compare_gt_iff_gt.2 h]
  · rw [if_neg hab]
    by_cases h : utcMicros d1 c1 a < utcMicros d2 c2 b
    · rw [if_pos h, if_pos h]
    · rw [if_neg h, if_neg h, if_neg (fun e => hab e.2)]

/-- Two aware moments of the years 1 to 9999 are equal exactly when they are
at one instant and their zones answer one offset. -/
theorem moment_eq_iff_instant_and_offset {d1 d2 : Date} {c1 c2 : Clock} (hd1 : d1.Valid)
    (hc1 : c1.Valid) (hd2 : d2.Valid) (hc2 : c2.Valid) {z1 z2 : Option Nat} {zs : Zones} {a b : Int}
    (h1 : zoneMinutes z1 "utcoffset" zs = .ok (some a))
    (h2 : zoneMinutes z2 "utcoffset" zs = .ok (some b)) :
    callMethod (.moment d1 c1 z1) "__eq__" [.moment d2 c2 z2] [] zs = .ok (Object.ofBool true) ↔
      utcMicros d1 c1 a = utcMicros d2 c2 b ∧ a = b := by
  rw [moment_comparisons (by simp [comparisonNames]) hd1 hc1 hd2 hc2 h1 h2]
  simp only [comparisonAnswer, Object.ofBool]
  split_ifs with hlt heq
  · exact iff_of_false (by simp) (fun h => hlt.ne h.1)
  · exact iff_of_true rfl heq
  · exact iff_of_false (by simp) heq

end Basis.Calendar
