import Basis.Proofs.Calendar.Compare

/-!
# Local time from universal time

A zone's `fromutc` brings a moment of universal time into the zone's local
time with two moves: by the zone's standard offset (its offset less its
daylight saving, at the moment given), then by the daylight saving at the
moment that first move reaches. `astimezone` takes a moment of one zone back
to universal time by that zone's offset and brings it into another zone so.

The zones here are any zones whose methods answer whole minutes at every
moment, the offset and the saving apart by one standard offset `s`
(`StandardOffset`): the saving may change with the moment, as daylight saving
time does. Moments stand for their counts of microseconds (`momentMicros`),
and `momentAt` gives the moment of a count back.

* `fromUniversalBy_local`: when both moves stay in the years 1 to 9999 and
  the saving at the moment `z` the first move reaches is none or is the same
  where the second move lands, `fromutc` gives a moment whose count less its
  offset is the count it was given. The skipped hour of a change to daylight
  saving time meets the condition; the repeated hour of a change back does
  not.
* `intoZoneBy_same_instant`: so `astimezone` between two zones gives a moment
  at the same instant as the one it was given.
* `callMethod_astimezone_same_instant`: for the zones of the request's table,
  through the methods themselves: the moment `astimezone` gives carries the
  zone it was asked for, and its difference from the moment it was given is
  zero.

`local_time_conversion` states the three together.
-/

namespace Basis.Calendar

/-! ## Durations of minutes -/

theorem Duration.ofMinutes_yields (m : Int) : Duration.Yields (Duration.ofMinutes m) (60000000 * m) := by
  have h := Duration.make_carry_yields 0 (m * 60) 0
  rwa [show ((0 : Int) * 86400 + m * 60) * 1000000 + 0 = 60000000 * m by omega] at h

/-- An offset of less than a day either way is a valid duration of its minutes. -/
theorem Duration.ofMinutes_exact {m : Int} (h : -1440 < m ∧ m < 1440) :
    ∃ t, Duration.ofMinutes m = .ok t ∧ t.Valid ∧ t.toMicros = 60000000 * m :=
  (Duration.ofMinutes_yields m).1 (by
    rw [Duration.inRange_iff]
    simp only [Duration.maxDays]
    omega)

/-- The offset a zone's methods answer is less than a day either way. -/
theorem methodMinutes_bounds {tz : ZoneMethods} {q : String} {m : Date × Clock} {zs : Zones} {k : Int}
    (h : methodMinutes tz q m zs = .ok (some k)) : -1440 < k ∧ k < 1440 := by
  simp only [methodMinutes, calc_bind] at h
  cases ha : tz q m zs with
  | error e => simp [ha, Except.bind] at h
  | ok o =>
    simp only [ha, Except.bind] at h
    exact offsetMinutes_bounds h

/-! ## The moment of a count -/

/-- The moment of a count of microseconds from the start of the day before day
one: the date of its whole days and the time of day of the rest. -/
def momentAt (u : Int) : Date × Clock :=
  (Date.ofOrdinal (u / 86400000000),
    ⟨u % 86400000000 / 3600000000, u % 3600000000 / 60000000, u % 60000000 / 1000000, u % 1000000⟩)

theorem momentMicros_momentAt (u : Int) : momentMicros (momentAt u).1 (momentAt u).2 = u := by
  simp only [momentAt, momentMicros, Date.toOrdinal_ofOrdinal]
  omega

theorem momentAt_valid {u : Int} (hu : MomentInRange u) : (momentAt u).1.Valid ∧ (momentAt u).2.Valid := by
  unfold MomentInRange at hu
  refine ⟨Date.ofOrdinal_valid (by omega), ?_⟩
  simp only [momentAt, Clock.valid_iff]
  omega

/-- A valid moment is the moment of its count. -/
theorem momentAt_momentMicros {m : Date × Clock} (h1 : m.1.Valid) (h2 : m.2.Valid) :
    momentAt (momentMicros m.1 m.2) = m := by
  have hv := momentAt_valid (momentMicros_mem h1 h2)
  obtain ⟨hd, hc⟩ := eq_of_momentMicros_eq hv.1 h1 hv.2 h2 (momentMicros_momentAt _)
  exact Prod.ext hd hc

/-! ## Zones of a standard offset -/

/-- A zone whose methods answer, at every moment of the years 1 to 9999, the
offset `offset` and the daylight saving `saving` in whole minutes, the two
apart by the standard offset `s` throughout. -/
structure StandardOffset (tz : ZoneMethods) (offset saving : Date × Clock → Int) (s : Int)
    (zs : Zones) : Prop where
  /-- The offset is answered, in whole minutes. -/
  answers_offset : ∀ m : Date × Clock, m.1.Valid → m.2.Valid →
    methodMinutes tz "utcoffset" m zs = .ok (some (offset m))
  /-- The daylight saving is answered, in whole minutes. -/
  answers_saving : ∀ m : Date × Clock, m.1.Valid → m.2.Valid →
    methodMinutes tz "dst" m zs = .ok (some (saving m))
  /-- The offset less the saving is the standard offset. -/
  standard : ∀ m : Date × Clock, m.1.Valid → m.2.Valid → offset m - saving m = s

/-- The two moves `fromutc` makes from the universal time of count `u` stay in
the years 1 to 9999: by the standard offset `s`, then by the daylight saving at
the moment that reaches. -/
def InReach (saving : Date × Clock → Int) (s u : Int) : Prop :=
  MomentInRange (u + 60000000 * s) ∧
    MomentInRange (u + 60000000 * s + 60000000 * saving (momentAt (u + 60000000 * s)))

/-- The daylight saving at the moment of count `v` is none, or is the same at
the moment it moves `v` to. -/
def KeepsSaving (saving : Date × Clock → Int) (v : Int) : Prop :=
  saving (momentAt v) = 0 ∨
    saving (momentAt (v + 60000000 * saving (momentAt v))) = saving (momentAt v)

instance (u : Int) : Decidable (MomentInRange u) := inferInstanceAs (Decidable (_ ∧ _))

instance (saving : Date × Clock → Int) (s u : Int) : Decidable (InReach saving s u) :=
  inferInstanceAs (Decidable (_ ∧ _))

instance (saving : Date × Clock → Int) (v : Int) : Decidable (KeepsSaving saving v) :=
  inferInstanceAs (Decidable (_ ∨ _))

/-! ## Bringing universal time into local time -/

/-- `fromutc` once the zone has answered at each step: the second move, from
where the first lands. -/
theorem fromUniversalBy_eq {tz : ZoneMethods} {m z : Date × Clock} {zs : Zones}
    {off dst dst' : Int} {t1 t2 δ t3 : Duration}
    (h1 : methodMinutes tz "utcoffset" m zs = .ok (some off))
    (h2 : methodMinutes tz "dst" m zs = .ok (some dst)) (h3 : Duration.ofMinutes off = .ok t1)
    (h4 : Duration.ofMinutes dst = .ok t2) (h5 : t1.sub t2 = .ok δ) (h6 : shiftMoment m.1 m.2 δ 1 = .ok z)
    (h7 : methodMinutes tz "dst" z zs = .ok (some dst')) (h8 : Duration.ofMinutes dst' = .ok t3) :
    fromUniversalBy tz m zs = shiftMoment z.1 z.2 t3 1 := by
  simp only [fromUniversalBy, calc_bind, h1, h2, calc_lift, h3, h4, h5, h6, h7, h8, Except.bind]

section Standard

variable {tz : ZoneMethods} {offset saving : Date × Clock → Int} {s : Int} {zs : Zones}

/-- The first move of `fromutc`: by the standard offset, to the moment of the
count plus it. -/
theorem fromUniversalBy_first (htz : StandardOffset tz offset saving s zs) {x : Date × Clock}
    (hx : x.1.Valid) (hc : x.2.Valid) (hr : MomentInRange (momentMicros x.1 x.2 + 60000000 * s)) :
    ∃ t1 t2 δ, Duration.ofMinutes (offset x) = .ok t1 ∧ Duration.ofMinutes (saving x) = .ok t2 ∧
      t1.sub t2 = .ok δ ∧ shiftMoment x.1 x.2 δ 1 = .ok (momentAt (momentMicros x.1 x.2 + 60000000 * s)) := by
  obtain ⟨t1, h1, -, ht1⟩ :=
    Duration.ofMinutes_exact (methodMinutes_bounds (htz.answers_offset x hx hc))
  obtain ⟨t2, h2, -, ht2⟩ :=
    Duration.ofMinutes_exact (methodMinutes_bounds (htz.answers_saving x hx hc))
  have hs := htz.standard x hx hc
  -- the standard offset is less than two days either way
  obtain ⟨δ, hδ, -, huδ⟩ := (Duration.sub_yields t1 t2).1 (by
    have := methodMinutes_bounds (htz.answers_offset x hx hc)
    have := methodMinutes_bounds (htz.answers_saving x hx hc)
    rw [Duration.inRange_iff, ht1, ht2]
    simp only [Duration.maxDays]
    omega)
  have hland := (shiftMoment_lands hx.toOnCalendar x.2 δ 1).1 (by
    rw [huδ, ht1, ht2]
    convert hr using 2
    rw [← hs]
    ring)
  obtain ⟨z, hz, hz1, hz2, hzu⟩ := hland
  refine ⟨t1, t2, δ, h1, h2, hδ, ?_⟩
  rw [hz, ← momentAt_momentMicros hz1 hz2, hzu, huδ, ht1, ht2, ← hs]
  congr 2
  ring

/-- `fromutc` brings universal time into local time: when its two moves stay in
the years 1 to 9999, and the daylight saving at the moment its first move
reaches is none or is kept where the second move lands, it gives a valid moment
whose count less its offset is the count of the moment it was given. -/
theorem fromUniversalBy_local (htz : StandardOffset tz offset saving s zs) {x : Date × Clock}
    (hx : x.1.Valid) (hc : x.2.Valid) (hr : InReach saving s (momentMicros x.1 x.2))
    (hk : KeepsSaving saving (momentMicros x.1 x.2 + 60000000 * s)) :
    ∃ y : Date × Clock, fromUniversalBy tz x zs = .ok y ∧ y.1.Valid ∧ y.2.Valid ∧
      momentMicros y.1 y.2 - 60000000 * offset y = momentMicros x.1 x.2 := by
  obtain ⟨t1, t2, δ, h1, h2, hδ, hfirst⟩ := fromUniversalBy_first htz hx hc hr.1
  obtain ⟨hr1, hr2⟩ := hr
  -- `z`, the moment the first move reaches, and its saving
  generalize hv : momentMicros x.1 x.2 + 60000000 * s = v at hr1 hr2 hk hfirst
  obtain ⟨hz1, hz2⟩ := momentAt_valid hr1
  have hzs := htz.answers_saving (momentAt v) hz1 hz2
  obtain ⟨t3, h3, -, ht3⟩ := Duration.ofMinutes_exact (methodMinutes_bounds hzs)
  -- the second move lands on `y`, further by the saving at `z`
  have hland := (shiftMoment_lands hz1.toOnCalendar (momentAt v).2 t3 1).1 (by
    rw [ht3, momentMicros_momentAt, Int.one_mul]
    exact hr2)
  obtain ⟨y, hy, hy1, hy2, hyu⟩ := hland
  rw [ht3, momentMicros_momentAt, Int.one_mul] at hyu
  refine ⟨y, ?_, hy1, hy2, ?_⟩
  · rw [fromUniversalBy_eq (htz.answers_offset x hx hc) (htz.answers_saving x hx hc) h1 h2 hδ hfirst hzs
      h3, hy]
  -- the saving at `y` is the saving at `z`, so the offset at `y` is the standard offset plus it
  have hsy : saving y = saving (momentAt v) := by
    rw [← momentAt_momentMicros hy1 hy2, hyu]
    rcases hk with h0 | hkeep
    · rw [h0, Int.mul_zero, Int.add_zero]
      exact h0
    · exact hkeep
  have hoff := htz.standard y hy1 hy2
  rw [hyu]
  omega

end Standard

/-! ## Moving between zones -/

/-- `astimezone` between two zones once its own zone has answered: back to
universal time by its offset, then into the other zone as its `fromutc` does. -/
theorem intoZoneBy_eq {mine target : ZoneMethods} {m u : Date × Clock} {zs : Zones} {o : Int}
    {t : Duration} (h1 : methodMinutes mine "utcoffset" m zs = .ok (some o))
    (h2 : Duration.ofMinutes o = .ok t) (h3 : shiftMoment m.1 m.2 t (-1) = .ok u) :
    intoZoneBy mine target m zs = fromUniversalBy target u zs := by
  simp only [intoZoneBy, calc_bind, h1, calc_lift, h2, h3, Except.bind]

section Standard

variable {tz : ZoneMethods} {offset saving : Date × Clock → Int} {s : Int} {zs : Zones}

/-- A moment of a zone that answers its offset `o`, brought into a zone of
standard offset, is at the same instant: its count less its new offset is the
count less `o`, when the moves stay in the years 1 to 9999 and the saving is
kept where `fromutc` moves by it. -/
theorem intoZoneBy_same_instant (htz : StandardOffset tz offset saving s zs) {mine : ZoneMethods}
    {a : Date × Clock} (ha : a.1.Valid) {o : Int}
    (ho : methodMinutes mine "utcoffset" a zs = .ok (some o))
    (hu : MomentInRange (momentMicros a.1 a.2 - 60000000 * o))
    (hr : InReach saving s (momentMicros a.1 a.2 - 60000000 * o))
    (hk : KeepsSaving saving (momentMicros a.1 a.2 - 60000000 * o + 60000000 * s)) :
    ∃ y : Date × Clock, intoZoneBy mine tz a zs = .ok y ∧ y.1.Valid ∧ y.2.Valid ∧
      momentMicros y.1 y.2 - 60000000 * offset y = momentMicros a.1 a.2 - 60000000 * o := by
  obtain ⟨t, ht, -, htu⟩ := Duration.ofMinutes_exact (methodMinutes_bounds ho)
  -- universal time, at the count less the offset
  have hland := (shiftMoment_lands ha.toOnCalendar a.2 t (-1)).1 (by
    rw [htu]
    convert hu using 1
    ring)
  obtain ⟨u, hu', hu1, hu2, huu⟩ := hland
  have hcount : momentMicros u.1 u.2 = momentMicros a.1 a.2 - 60000000 * o := by
    rw [huu, htu]
    ring
  rw [intoZoneBy_eq ho ht hu', ← hcount]
  rw [← hcount] at hr hk
  exact fromUniversalBy_local htz hu1 hu2 hr hk

end Standard

/-! ## Through the methods, for the zones of the table -/

/-- A zone of the table that answers an offset and a saving is a zone of
standard offset, alike at every moment. -/
theorem tableMethods_standardOffset {id : Nat} {zs : Zones} {a b : Int}
    (ha : zoneMinutes (some id) "utcoffset" zs = .ok (some a))
    (hb : zoneMinutes (some id) "dst" zs = .ok (some b)) :
    StandardOffset (tableMethods id) (fun _ => a) (fun _ => b) (a - b) zs where
  answers_offset _ _ _ := ha
  answers_saving _ _ _ := hb
  standard _ _ _ := rfl

theorem callMethod_astimezone (d : Date) (c : Clock) (mine target : Nat) (zs : Zones) :
    callMethod (.moment d c (some mine)) "astimezone" [.zone target] [] zs =
      (if mine == target then (pure (.moment d c (some mine)) : Calc Object)
      else do
        let (d2, c2) ← intoZoneBy (tableMethods mine) (tableMethods target) (d, c)
        return .moment d2 c2 (some target)) zs := by
  rfl

/-- The difference of two valid moments at one instant, whatever their
zones' offsets, is zero. -/
theorem momentDiff_same_instant {d1 d2 : Date} {c1 c2 : Clock} (hd1 : d1.Valid) (hc1 : c1.Valid)
    (hd2 : d2.Valid) (hc2 : c2.Valid) {z1 z2 : Option Nat} {zs : Zones} {a b : Int}
    (h1 : zoneMinutes z1 "utcoffset" zs = .ok (some a))
    (h2 : zoneMinutes z2 "utcoffset" zs = .ok (some b))
    (h : momentMicros d1 c1 - 60000000 * a = momentMicros d2 c2 - 60000000 * b) :
    momentDiff d1 c1 z1 d2 c2 z2 zs = .ok Duration.zero := by
  obtain ⟨δ, hδ, hvδ, huδ⟩ := momentDiff_offsets_exact hd1 hc1 hd2 hc2 h1 h2
  have hzero : δ.toMicros = Duration.zero.toMicros := by
    rw [huδ, h, Int.sub_self]
    rfl
  rw [hδ, Duration.eq_of_toMicros_eq hvδ (show Duration.zero.Valid by decide) hzero]

/-- `astimezone` between two zones of the table that answer their offsets, and
the saving of the second, gives a valid moment that carries the second zone
and whose difference from the moment it was given is zero, when its moves stay
in the years 1 to 9999. -/
theorem callMethod_astimezone_same_instant {d : Date} {c : Clock} (hd : d.Valid) (hc : c.Valid)
    {mine target : Nat} {zs : Zones} {o a b : Int}
    (ho : zoneMinutes (some mine) "utcoffset" zs = .ok (some o))
    (ha : zoneMinutes (some target) "utcoffset" zs = .ok (some a))
    (hb : zoneMinutes (some target) "dst" zs = .ok (some b))
    (hu : MomentInRange (momentMicros d c - 60000000 * o))
    (hr : InReach (fun _ => b) (a - b) (momentMicros d c - 60000000 * o)) :
    ∃ d' c', callMethod (.moment d c (some mine)) "astimezone" [.zone target] [] zs =
        .ok (.moment d' c' (some target)) ∧ d'.Valid ∧ c'.Valid ∧
      callMethod (.moment d' c' (some target)) "__sub__" [.moment d c (some mine)] [] zs =
        .ok (.delta Duration.zero) := by
  rw [callMethod_astimezone]
  by_cases h : mine = target
  · -- the moment's own zone: the moment itself
    subst h
    refine ⟨d, c, by simp [calc_pure], hd, hc, ?_⟩
    rw [callMethod_moment_sub_moment, momentDiff_same_instant hd hc hd hc ho ho rfl]
    rfl
  · -- a constant saving is kept wherever it moves to
    have ho' : methodMinutes (tableMethods mine) "utcoffset" (d, c) zs = .ok (some o) := ho
    obtain ⟨y, hy, hy1, hy2, hyu⟩ :=
      intoZoneBy_same_instant (tableMethods_standardOffset ha hb) (a := (d, c)) hd ho' hu hr (.inr rfl)
    refine ⟨y.1, y.2, ?_, hy1, hy2, ?_⟩
    · simp only [beq_iff_eq, h, if_false, calc_bind, hy, calc_pure]
      rfl
    · rw [callMethod_moment_sub_moment, momentDiff_same_instant hy1 hy2 hd hc ha ho hyu]
      rfl

/-! ## Local time from universal time -/

/-- What it means for `fromutc` and `astimezone` to bring universal time into
local time, with the zones answering from `zs`: for every zone of a standard
offset, through the functions the methods run, and for the zones of the table,
through the methods themselves. -/
structure LocalTimeConversion (zs : Zones) : Prop where
  /-- `fromutc` gives a moment whose count less its offset is the count it was
  given, when both its moves stay in the years 1 to 9999 and the saving at the
  moment its first move reaches is none or is kept where the second lands. -/
  fromutc : ∀ (tz : ZoneMethods) (offset saving : Date × Clock → Int) (s : Int),
    StandardOffset tz offset saving s zs → ∀ x : Date × Clock, x.1.Valid → x.2.Valid →
    InReach saving s (momentMicros x.1 x.2) → KeepsSaving saving (momentMicros x.1 x.2 + 60000000 * s) →
    ∃ y : Date × Clock, fromUniversalBy tz x zs = .ok y ∧ y.1.Valid ∧ y.2.Valid ∧
      momentMicros y.1 y.2 - 60000000 * offset y = momentMicros x.1 x.2
  /-- `astimezone` from a zone that answers the offset `o` into a zone of
  standard offset gives a moment at the same instant, under the same conditions
  on the moves from universal time. -/
  astimezone : ∀ (mine tz : ZoneMethods) (offset saving : Date × Clock → Int) (s : Int),
    StandardOffset tz offset saving s zs → ∀ (a : Date × Clock) (o : Int), a.1.Valid → a.2.Valid →
    methodMinutes mine "utcoffset" a zs = .ok (some o) →
    MomentInRange (momentMicros a.1 a.2 - 60000000 * o) →
    InReach saving s (momentMicros a.1 a.2 - 60000000 * o) →
    KeepsSaving saving (momentMicros a.1 a.2 - 60000000 * o + 60000000 * s) →
    ∃ y : Date × Clock, intoZoneBy mine tz a zs = .ok y ∧ y.1.Valid ∧ y.2.Valid ∧
      momentMicros y.1 y.2 - 60000000 * offset y = momentMicros a.1 a.2 - 60000000 * o
  /-- `astimezone` between zones of the table gives a moment that carries the
  zone it was asked for, at a difference of zero from the moment it was given. -/
  astimezone_method : ∀ (d : Date) (c : Clock) (mine target : Nat) (o a b : Int), d.Valid → c.Valid →
    zoneMinutes (some mine) "utcoffset" zs = .ok (some o) →
    zoneMinutes (some target) "utcoffset" zs = .ok (some a) →
    zoneMinutes (some target) "dst" zs = .ok (some b) →
    MomentInRange (momentMicros d c - 60000000 * o) →
    InReach (fun _ => b) (a - b) (momentMicros d c - 60000000 * o) →
    ∃ d' c', callMethod (.moment d c (some mine)) "astimezone" [.zone target] [] zs =
        .ok (.moment d' c' (some target)) ∧ d'.Valid ∧ c'.Valid ∧
      callMethod (.moment d' c' (some target)) "__sub__" [.moment d c (some mine)] [] zs =
        .ok (.delta Duration.zero)

theorem local_time_conversion (zs : Zones) : LocalTimeConversion zs where
  fromutc _ _ _ _ htz _ hx hc hr hk := fromUniversalBy_local htz hx hc hr hk
  astimezone _ _ _ _ _ htz _ _ ha _ ho hu hr hk := intoZoneBy_same_instant htz ha ho hu hr hk
  astimezone_method _ _ _ _ _ _ _ hd hc ho ha hb hu hr :=
    callMethod_astimezone_same_instant hd hc ho ha hb hu hr

/-- An offset of whole minutes, less than a day either way, passes the check
with its minutes. -/
theorem offsetMinutes_delta {q : String} {t : Duration} (ht : t.Valid) {k : Int}
    (hk : -1440 < k ∧ k < 1440) (hm : t.toMicros = 60000000 * k) (zs : Zones) :
    offsetMinutes q (.delta t) zs = .ok (some k) := by
  obtain ⟨h1, h2, h3, h4, -, -⟩ := ht
  unfold Duration.toMicros at hm
  have hmicro : t.micros = 0 := by omega
  have hdays : ¬(t.days < -1 ∨ 0 < t.days) := by omega
  have hsecs : t.days * 86400 + t.seconds = 60 * k := by omega
  simp (disch := decide) only [offsetMinutes, hdays, hsecs, hmicro, Int.fmod_eq_emod_of_nonneg,
    Int.fdiv_eq_ediv_of_nonneg, Int.mul_emod_right, Int.mul_ediv_cancel_left, decide_eq_true_eq,
    Bool.or_eq_true, bne_iff_ne, ne_eq, not_true_eq_false, or_self, if_false]
  simp [hk.1, hk.2, calc_pure]

/-- The daylight saving, in minutes, of a zone that moves its clocks an hour
forward at 2:00 on 2 April 2000 and never back. -/
def springSaving (m : Date × Clock) : Int :=
  if 730212 * 24 + 2 ≤ m.1.toOrdinal * 24 + m.2.hour then 60 else 0

/-- The zone five hours behind universal time whose saving is `springSaving`:
its methods answer the saving, and the offset with it, as durations. -/
def springZone : ZoneMethods := fun question m => do
  pure (.delta (← Duration.ofMinutes (springSaving m - if question = "dst" then 0 else 300)))

theorem springSaving_bounds (m : Date × Clock) :
    -1440 < springSaving m ∧ springSaving m < 1440 ∧ -1440 < springSaving m - 300 ∧
      springSaving m - 300 < 1440 := by
  unfold springSaving
  split <;> omega

theorem springZone_standardOffset (zs : Zones) :
    StandardOffset springZone (fun m => springSaving m - 300) springSaving (-300) zs where
  answers_offset m _ _ := by
    have hb := springSaving_bounds m
    obtain ⟨t, ht, hv, hu⟩ := Duration.ofMinutes_exact (m := springSaving m - 300) ⟨hb.2.2.1, hb.2.2.2⟩
    have hq : ¬("utcoffset" = "dst") := by decide
    simp only [methodMinutes, springZone, hq, if_false, calc_bind, calc_lift, ht, Except.bind, calc_pure]
    exact offsetMinutes_delta hv ⟨hb.2.2.1, hb.2.2.2⟩ hu zs
  answers_saving m _ _ := by
    have hb := springSaving_bounds m
    obtain ⟨t, ht, hv, hu⟩ := Duration.ofMinutes_exact (m := springSaving m) ⟨hb.1, hb.2.1⟩
    simp only [methodMinutes, springZone, if_true, Int.sub_zero, calc_bind, calc_lift, ht, Except.bind,
      calc_pure]
    exact offsetMinutes_delta hv ⟨hb.1, hb.2.1⟩ hu zs
  standard _ _ _ := by omega

/-- At 7:30 universal time on 2 April 2000 the first move of `fromutc` in the
zone `springZone` reaches 2:30, an hour its clocks skip; the saving there is
kept an hour on, and local time is 3:30, four hours behind. -/
theorem local_time_conversion_spring_forward :
    KeepsSaving springSaving (momentMicros ⟨2000, 4, 2⟩ ⟨7, 30, 0, 0⟩ + 60000000 * -300) ∧
    ∃ y : Date × Clock, fromUniversalBy springZone (⟨2000, 4, 2⟩, ⟨7, 30, 0, 0⟩) #[] = .ok y ∧
      y.1.Valid ∧ y.2.Valid ∧
      momentMicros y.1 y.2 - 60000000 * (springSaving y - 300) = momentMicros ⟨2000, 4, 2⟩ ⟨7, 30, 0, 0⟩ :=
  have hk : KeepsSaving springSaving (momentMicros ⟨2000, 4, 2⟩ ⟨7, 30, 0, 0⟩ + 60000000 * -300) := by
    decide
  ⟨hk, (local_time_conversion #[]).fromutc springZone _ springSaving (-300)
    (springZone_standardOffset #[]) (⟨2000, 4, 2⟩, ⟨7, 30, 0, 0⟩) (by decide) (by decide)
    (by decide) hk⟩

end Basis.Calendar
