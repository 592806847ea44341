import Mathlib.Algebra.Order.Group.Unbundled.Abs
import Mathlib.Tactic.LinearCombination
import Basis.Calendar.Duration

/-!
# Durations are bounded integers of microseconds

A duration is kept as days, seconds and microseconds, but it stands for one
integer, its length in microseconds (`Duration.toMicros`). This file shows
that the representation is exact:

* `carry_spec`: `carry` keeps the value `hi * factor + lo` of a pair and brings
  `lo` into `0 … factor - 1`; it is the one step behind every normalisation.
* `Duration.Valid` is the shape every duration has: seconds within a day,
  microseconds within a second, and at most `maxDays` days either way. A valid
  duration is determined by its microseconds (`eq_of_toMicros_eq`).
* `Duration.Yields r n` says that an operation whose exact result is `n`
  microseconds gave the valid duration of `n` microseconds, or an
  `OverflowError` exactly when no duration holds `n`. Both normalisers satisfy
  it: `make` with carrying (`make_carry_yields`) and `ofMicros`
  (`ofMicros_yields`), so every operation built on them does.
* `compare_eq_compare_toMicros`: comparing two valid durations field by field
  orders them as their microseconds.

`arithmetic_exact` collects the operations of the class: the constructor with
integer amounts, sums, differences, negation, `+`, `abs`, products and floor
quotients by integers, and the comparisons.
-/

namespace Basis.Calendar

/-- Carrying keeps `hi * factor + lo` and leaves `lo` within `0 … factor - 1`. -/
theorem carry_spec (hi lo : Int) {f : Int} (hf : 0 < f) :
    (carry hi lo f).1 * f + (carry hi lo f).2 = hi * f + lo ∧
      0 ≤ (carry hi lo f).2 ∧ (carry hi lo f).2 < f := by
  unfold carry
  split
  · next h =>
    simp only [Bool.and_eq_true, decide_eq_true_eq] at h
    exact ⟨rfl, h.1, by omega⟩
  · have hdiv := Int.fmod_add_fdiv_mul lo f
    refine ⟨?_, Int.fmod_nonneg_of_pos lo hf, Int.fmod_lt_of_pos lo hf⟩
    show (hi + lo.fdiv f) * f + lo.fmod f = hi * f + lo
    linear_combination hdiv

namespace Duration

/-- The shape of every duration the class makes. -/
structure Valid (t : Duration) : Prop where
  /-- The seconds lie within a day. -/
  seconds_nonneg : 0 ≤ t.seconds
  /-- The seconds lie within a day. -/
  seconds_lt : t.seconds < 86400
  /-- The microseconds lie within a second. -/
  micros_nonneg : 0 ≤ t.micros
  /-- The microseconds lie within a second. -/
  micros_lt : t.micros < 1000000
  /-- At most `maxDays` days back. -/
  days_ge : -maxDays ≤ t.days
  /-- At most `maxDays` days forward. -/
  days_le : t.days ≤ maxDays

theorem valid_iff (t : Duration) :
    t.Valid ↔ 0 ≤ t.seconds ∧ t.seconds < 86400 ∧ 0 ≤ t.micros ∧ t.micros < 1000000 ∧
      -maxDays ≤ t.days ∧ t.days ≤ maxDays :=
  ⟨fun ⟨h1, h2, h3, h4, h5, h6⟩ => ⟨h1, h2, h3, h4, h5, h6⟩,
    fun ⟨h1, h2, h3, h4, h5, h6⟩ => ⟨h1, h2, h3, h4, h5, h6⟩⟩

instance (t : Duration) : Decidable t.Valid := decidable_of_iff _ (valid_iff t).symm

/-- A number of microseconds that a duration can hold: from `least` to `greatest`. -/
def InRange (n : Int) : Prop := least.toMicros ≤ n ∧ n ≤ greatest.toMicros

instance (n : Int) : Decidable (InRange n) := inferInstanceAs (Decidable (_ ∧ _))

theorem inRange_iff (n : Int) :
    InRange n ↔ -maxDays * 86400000000 ≤ n ∧ n ≤ maxDays * 86400000000 + 86399999999 := by
  simp only [InRange, least, greatest, toMicros, maxDays]
  omega

theorem Valid.inRange {t : Duration} (h : t.Valid) : InRange t.toMicros := by
  obtain ⟨h1, h2, h3, h4, h5, h6⟩ := h
  rw [inRange_iff]
  unfold toMicros
  omega

/-- A valid duration is determined by its microseconds. -/
theorem eq_of_toMicros_eq {a b : Duration} (ha : a.Valid) (hb : b.Valid)
    (h : a.toMicros = b.toMicros) : a = b := by
  obtain ⟨a1, a2, a3, a4, -, -⟩ := ha
  obtain ⟨b1, b2, b3, b4, -, -⟩ := hb
  unfold toMicros at h
  have hd : a.days = b.days := by omega
  have hs : a.seconds = b.seconds := by omega
  have hu : a.micros = b.micros := by omega
  cases a; cases b
  simp_all

/-- The outcome of an operation whose exact result is `n` microseconds: the
valid duration of `n` microseconds when a duration holds that many, else an
`OverflowError`. -/
def Yields (r : Except Failure Duration) (n : Int) : Prop :=
  (InRange n → ∃ t, r = .ok t ∧ t.Valid ∧ t.toMicros = n) ∧
    (¬InRange n → ∃ msg, r = .error (.overflowError msg))

theorem yields_ok {t : Duration} (h : t.Valid) : Yields (.ok t) t.toMicros :=
  ⟨fun _ => ⟨t, rfl, h, rfl⟩, fun hn => absurd h.inRange hn⟩

/-- Days, seconds and microseconds in range, with the days checked, yield their
value. -/
theorem yields_of_checked {d s us : Int} (hs : 0 ≤ s ∧ s < 86400) (hus : 0 ≤ us ∧ us < 1000000) :
    Yields (if -maxDays ≤ d && d ≤ maxDays then .ok ⟨d, s, us⟩
      else .error (.overflowError s!"days={d}; must have magnitude <= {maxDays}"))
      ((d * 86400 + s) * 1000000 + us) := by
  by_cases hd : -maxDays ≤ d ∧ d ≤ maxDays
  · have hv : (⟨d, s, us⟩ : Duration).Valid := ⟨hs.1, hs.2, hus.1, hus.2, hd.1, hd.2⟩
    rw [if_pos (by simpa using hd)]
    exact yields_ok hv
  · rw [if_neg (by simpa using hd)]
    refine ⟨fun hn => ?_, fun _ => ⟨_, rfl⟩⟩
    rw [inRange_iff] at hn
    simp only [maxDays] at hd hn
    omega

/-- `make` with carrying yields the value of its three fields, whatever their ranges. -/
theorem make_carry_yields (d s us : Int) :
    Yields (make d s us true) ((d * 86400 + s) * 1000000 + us) := by
  obtain ⟨e1, l1, u1⟩ := carry_spec s us (f := 1000000) (by decide)
  obtain ⟨e2, l2, u2⟩ := carry_spec d (carry s us 1000000).1 (f := 86400) (by decide)
  have hval : ((d * 86400 + s) * 1000000 + us) =
      ((carry d (carry s us 1000000).1 86400).1 * 86400 + (carry d (carry s us 1000000).1 86400).2) *
        1000000 + (carry s us 1000000).2 := by
    omega
  unfold make
  rw [hval]
  exact yields_of_checked ⟨l2, u2⟩ ⟨l1, u1⟩

/-- `ofMicros` yields the duration of any number of microseconds. -/
theorem ofMicros_yields (n : Int) : Yields (ofMicros n) n := by
  have e1 := Int.fmod_add_fdiv_mul n 1000000
  have e2 := Int.fmod_add_fdiv_mul (n.fdiv 1000000) 86400
  have hval : n = ((n.fdiv 1000000).fdiv 86400 * 86400 + (n.fdiv 1000000).fmod 86400) * 1000000 +
      n.fmod 1000000 := by omega
  unfold ofMicros
  conv => rhs; rw [hval]
  exact yields_of_checked
    ⟨Int.fmod_nonneg_of_pos _ (by decide), Int.fmod_lt_of_pos _ (by decide)⟩
    ⟨Int.fmod_nonneg_of_pos _ (by decide), Int.fmod_lt_of_pos _ (by decide)⟩

theorem add_yields (a b : Duration) : Yields (a.add b) (a.toMicros + b.toMicros) := by
  have e : a.toMicros + b.toMicros =
      ((a.days + b.days) * 86400 + (a.seconds + b.seconds)) * 1000000 + (a.micros + b.micros) := by
    unfold toMicros; omega
  rw [e]
  exact make_carry_yields _ _ _

theorem sub_yields (a b : Duration) : Yields (a.sub b) (a.toMicros - b.toMicros) := by
  have e : a.toMicros - b.toMicros =
      ((a.days - b.days) * 86400 + (a.seconds - b.seconds)) * 1000000 + (a.micros - b.micros) := by
    unfold toMicros; omega
  rw [e]
  exact make_carry_yields _ _ _

theorem neg_yields (t : Duration) : Yields t.neg (-t.toMicros) := by
  have e : -t.toMicros = (-t.days * 86400 + -t.seconds) * 1000000 + -t.micros := by
    unfold toMicros; omega
  rw [e]
  exact make_carry_yields _ _ _

/-- Remaking a valid duration without carrying gives it back. -/
theorem pos_eq {t : Duration} (h : t.Valid) : t.pos = .ok t := by
  have hd : (-maxDays ≤ t.days && t.days ≤ maxDays) = true := by
    simpa using ⟨h.days_ge, h.days_le⟩
  simp only [pos, make, Bool.false_eq_true, ↓reduceIte, hd]

theorem pos_yields {t : Duration} (h : t.Valid) : Yields t.pos t.toMicros := by
  rw [pos_eq h]
  exact yields_ok h

/-- Only the days carry the sign of a valid duration. -/
theorem toMicros_neg_iff {t : Duration} (h : t.Valid) : t.toMicros < 0 ↔ t.days < 0 := by
  have := h.seconds_nonneg; have := h.seconds_lt; have := h.micros_nonneg; have := h.micros_lt
  unfold toMicros
  omega

theorem abs_yields {t : Duration} (h : t.Valid) : Yields t.abs |t.toMicros| := by
  unfold abs
  split
  · next hneg =>
    rw [abs_of_neg ((toMicros_neg_iff h).2 hneg)]
    exact neg_yields t
  · next hnn =>
    rw [abs_of_nonneg (Int.not_lt.1 (mt (toMicros_neg_iff h).1 hnn))]
    exact yields_ok h

theorem mul_yields (t : Duration) (k : Int) : Yields (t.mul k) (t.toMicros * k) :=
  ofMicros_yields _

theorem floorDiv_yields (t : Duration) {k : Int} (hk : k ≠ 0) :
    Yields (t.floorDiv k) (t.toMicros.fdiv k) := by
  have hz : (k == 0) = false := by simpa using hk
  simp only [floorDiv, hz]
  exact ofMicros_yields _

/-- Field by field, valid durations compare as their microseconds. -/
theorem compare_eq_compare_toMicros {a b : Duration} (ha : a.Valid) (hb : b.Valid) :
    compare a b = Ord.compare a.toMicros b.toMicros := by
  obtain ⟨a1, a2, a3, a4, -, -⟩ := ha
  obtain ⟨b1, b2, b3, b4, -, -⟩ := hb
  have hlt : compare a b = .lt ↔ a.toMicros < b.toMicros := by
    simp only [compare, Ordering.then_eq_lt, Int.compare_eq_lt, Int.compare_eq_eq, toMicros]
    omega
  have hgt : compare a b = .gt ↔ b.toMicros < a.toMicros := by
    simp only [compare, Ordering.then_eq_gt, Int.compare_eq_gt, Int.compare_eq_eq, toMicros]
    omega
  rw [Int.compare_eq_ite_lt]
  split_ifs with h1 h2
  · exact hlt.2 h1
  · exact hgt.2 h2
  · cases hc : compare a b with
    | lt => exact absurd (hlt.1 hc) h1
    | eq => rfl
    | gt => exact absurd (hgt.1 hc) h2

theorem accumulateUnit_whole (x : Int) (l : Option Float) (tag : String) (o : Option Int) (f : Int) :
    accumulateUnit (x, l) (tag, o.map .whole, f) = .ok (x + o.getD 0 * f, l) := by
  cases o <;> simp [accumulateUnit, accumulate]

/-- Given integer amounts, the constructor adds them up exactly in microseconds. -/
theorem ofParts_whole (us ms s mi h d w : Option Int) :
    ofParts (us.map .whole) (ms.map .whole) (s.map .whole) (mi.map .whole) (h.map .whole)
      (d.map .whole) (w.map .whole) =
    ofMicros (us.getD 0 * 1 + ms.getD 0 * 1000 + s.getD 0 * 1000000 + mi.getD 0 * 60000000 +
      h.getD 0 * 3600000000 + d.getD 0 * 86400000000 + w.getD 0 * 604800000000) := by
  simp only [ofParts, List.foldlM_cons, List.foldlM_nil, bind, Except.bind, pure, Except.pure,
    accumulateUnit_whole, addLeftover, Int.zero_add]

/-- The operations of durations on `a` and `b`, and by the integer `k`, as
exact operations on their microseconds; the constructor takes integer amounts
of microseconds, milliseconds, seconds, minutes, hours, days and weeks, each
possibly left out. -/
structure ExactArithmetic (a b : Duration) (k : Int) : Prop where
  /-- The constructor adds up its amounts in microseconds. -/
  construct : ∀ us ms s mi h d w : Option Int,
    Yields (ofParts (us.map .whole) (ms.map .whole) (s.map .whole) (mi.map .whole) (h.map .whole)
      (d.map .whole) (w.map .whole))
      (us.getD 0 * 1 + ms.getD 0 * 1000 + s.getD 0 * 1000000 + mi.getD 0 * 60000000 +
        h.getD 0 * 3600000000 + d.getD 0 * 86400000000 + w.getD 0 * 604800000000)
  add : Yields (a.add b) (a.toMicros + b.toMicros)
  sub : Yields (a.sub b) (a.toMicros - b.toMicros)
  neg : Yields a.neg (-a.toMicros)
  pos : Yields a.pos a.toMicros
  abs : Yields a.abs |a.toMicros|
  mul : Yields (a.mul k) (a.toMicros * k)
  floorDiv : k ≠ 0 → Yields (a.floorDiv k) (a.toMicros.fdiv k)
  /-- The six comparisons are read off this order. -/
  compare : compare a b = Ord.compare a.toMicros b.toMicros

/-- A duration is an integer of microseconds between `least` and `greatest`:
every operation on valid durations gives the valid duration of its exact result,
or an `OverflowError` exactly when that result is out of range, and durations
compare as their microseconds. -/
theorem arithmetic_exact {a b : Duration} (ha : a.Valid) (hb : b.Valid) (k : Int) :
    ExactArithmetic a b k where
  construct us ms s mi h d w := by
    rw [ofParts_whole]
    exact ofMicros_yields _
  add := add_yields a b
  sub := sub_yields a b
  neg := neg_yields a
  pos := pos_yields ha
  abs := abs_yields ha
  mul := mul_yields a k
  floorDiv hk := floorDiv_yields a hk
  compare := compare_eq_compare_toMicros ha hb

theorem arithmetic_exact_at_bounds :
    (⟨-1, 86399, 999999⟩ : Duration).Valid ∧ greatest.Valid ∧
      ExactArithmetic ⟨-1, 86399, 999999⟩ greatest (-2) :=
  ⟨by decide, by decide, arithmetic_exact (by decide) (by decide) (-2)⟩

end Duration

end Basis.Calendar
