import Basis.Proofs.Except
import Basis.Proofs.Calendar.Arithmetic

/-!
# The field invariant of dates and times

A date the library makes lies on the calendar in the years 1 to 9999, and a
time of day lies within its day; a zone is `None` or an index of the zone
table, which its type already says. `Object.Calendrical` states this of an
object: of its own fields for a date, a time or a moment, and of nothing for
the others.

The ways the library has to make one of these objects from others keep it:

* the constructors check every field (`Date.ofInts_valid`,
  `Clock.ofInts_valid`), so the objects that `construct` and `replace` build
  through them are valid (`newDate_calendrical`, `newTime_calendrical`,
  `newMoment_calendrical`), and so is the date of an ordinal;
* `combine` checks its date and takes the time of day of a time;
* `+` and `-` move a date or a moment to a count that the years 1 to 9999 must
  hold (`Date.addDays_valid`, `shiftMoment_valid`), and `astimezone` and
  `fromutc` are such moves (`fromUniversal_calendrical`).

A method sees only the objects it was given, since binding arguments to
parameters never makes one up (`Signature.bind_positional`). Put together:
`construct_calendrical` for the constructors, `callClass_fromordinal_calendrical`
and `callClass_combine_calendrical` for the two class methods, and
`callMethod_calendrical` for the `makingMethods` of every object.

The moments of timestamps are not made this way: they take the fields of the
civil time of the C library without the checks, and the civil time of the
first second of the year 10000 lies in that year (`civilTime_past_maxYear`).
-/

namespace Basis

/-! ## Binding keeps what the arguments have -/

namespace Signature

/-- Every argument that binding gives a positional parameter was passed,
by position or by keyword, so it has what all the passed ones have. -/
theorem bind_positional {α : Type} {P : α → Prop} {sig : Signature} {args : List α}
    {kwargs : List (String × α)} {b : Bound α} (hargs : ∀ a ∈ args, P a)
    (hkw : ∀ kv ∈ kwargs, P kv.2) (h : sig.bind args kwargs = .ok b) :
    ∀ x, some x ∈ b.positional → P x := by
  unfold bind at h
  obtain ⟨⟨pos, kwo, extra⟩, hfold, h⟩ := bind_eq_ok h
  -- the checks after the keywords only fail or hand the positional arguments on
  have hpos : b.positional = pos := by
    dsimp only at h
    split at h
    · cases h
    split at h
    · cases h
    split at h
    · cases h
    cases h
    rfl
  rw [hpos]
  refine foldlM_invariant (fun s => ∀ x, some x ∈ s.1 → P x) ?_ ?_ hfold
  · -- a keyword fills the slot of its parameter, or leaves the positional ones alone
    rintro ⟨k, v⟩ hkv ⟨pos, kwo, extra⟩ t hinv ht
    dsimp only at ht
    split at ht
    · split at ht
      · cases ht
      · cases ht
        intro x hx
        rcases List.mem_or_eq_of_mem_set hx with hx | hx
        · exact hinv x hx
        · cases hx
          exact hkw _ hkv
    · split at ht
      · split at ht
        · cases ht
        · cases ht
          exact hinv
      · split at ht
        · cases ht
          exact hinv
        · cases ht
  · -- before the keywords, the arguments given by position, in order
    intro x hx
    simp only [List.mem_map, List.mem_range] at hx
    obtain ⟨i, -, hi⟩ := hx
    exact hargs x (List.mem_of_getElem? hi)

end Signature

namespace Calendar

theorem calc_bind_eq_ok {α β : Type} {x : Calc α} {f : α → Calc β} {zs : Zones} {b : β}
    (h : (x >>= f) zs = .ok b) : ∃ a, x zs = .ok a ∧ f a zs = .ok b :=
  bind_eq_ok h

theorem calc_read_bind {α : Type} (f : Zones → Calc α) (zs : Zones) : (read >>= f) zs = f zs zs := rfl

/-! ## The invariant -/

namespace Object

/-- The field invariant: a date on the calendar in the years 1 to 9999, a time
of day within its day, and both for a moment. Other objects have no such
fields. -/
def Calendrical : Object → Prop
  | .date d => d.Valid
  | .time c _ => c.Valid
  | .moment d c _ => d.Valid ∧ c.Valid
  | _ => True

instance : DecidablePred Calendrical
  | .date d => inferInstanceAs (Decidable d.Valid)
  | .time c _ => inferInstanceAs (Decidable c.Valid)
  | .moment d c _ => inferInstanceAs (Decidable (d.Valid ∧ c.Valid))
  | .plain _ | .seq .. | .delta _ | .zone _ | .kind _ | .bound .. | .notImplemented => isTrue trivial

end Object

open Object (Calendrical)

/-! ## The checked constructors -/

namespace Date

/-- The checked constructor makes only dates of the years 1 to 9999 on the
calendar. -/
theorem ofInts_valid {y m d : Int} {x : Date} (h : ofInts y m d = .ok x) : x.Valid := by
  unfold ofInts at h
  dsimp only at h
  split at h
  case isFalse => cases h
  next hy =>
  split at h
  case isFalse => cases h
  next hm =>
  split at h
  case isFalse => cases h
  next hd =>
  cases h
  simp only [Bool.and_eq_true, decide_eq_true_eq] at hy hm hd
  exact { month_pos := by simp; omega, month_le := by simp; omega, day_pos := by simp; omega,
          day_le := by simp; omega, year_ge := hy.1, year_le := hy.2 }

/-- Days added to a day of the calendar give a date of the years 1 to 9999,
when they give one. -/
theorem addDays_valid {x y : Date} (hx : x.OnCalendar) {k : Int} (h : x.addDays k = .ok y) :
    y.Valid := by
  rw [addDays_eq hx, atOrdinal] at h
  split at h
  next hin =>
    cases h
    exact ofOrdinal_valid hin
  · cases h

end Date

namespace Clock

/-- The checked constructor makes only times within the day. -/
theorem ofInts_valid {h m s us : Int} {c : Clock} (hc : ofInts h m s us = .ok c) : c.Valid := by
  unfold ofInts at hc
  dsimp only at hc
  split at hc
  case isFalse => cases hc
  next hh =>
  split at hc
  case isFalse => cases hc
  next hm =>
  split at hc
  case isFalse => cases hc
  next hs =>
  split at hc
  case isFalse => cases hc
  next hus =>
  cases hc
  simp only [Bool.and_eq_true, decide_eq_true_eq] at hh hm hs hus
  constructor <;> dsimp only <;> omega

theorem midnight_valid : midnight.Valid := by decide

end Clock

theorem Lands.valid {r : Except Failure (Date × Clock)} {u : Int} (h : Lands r u) {p : Date × Clock}
    (hr : r = .ok p) : p.1.Valid ∧ p.2.Valid := by
  by_cases hu : MomentInRange u
  · obtain ⟨q, hq, hd, hc, -⟩ := h.1 hu
    rw [hr] at hq
    cases hq
    exact ⟨hd, hc⟩
  · rw [h.2 hu] at hr
    cases hr

/-- A moment of a day of the calendar moved by a duration is a valid moment,
when the move gives one. -/
theorem shiftMoment_valid {d : Date} (hd : d.OnCalendar) {c : Clock} {t : Duration} {f : Int}
    {p : Date × Clock} (h : shiftMoment d c t f = .ok p) : p.1.Valid ∧ p.2.Valid :=
  (shiftMoment_lands hd c t f).valid h

theorem newDate_calendrical {y m d o : Object} (h : newDate y m d = .ok o) : o.Calendrical := by
  unfold newDate at h
  obtain ⟨_, -, h⟩ := bind_eq_ok h
  obtain ⟨_, -, h⟩ := bind_eq_ok h
  obtain ⟨_, -, h⟩ := bind_eq_ok h
  obtain ⟨_, -, h⟩ := bind_eq_ok h
  obtain ⟨x, hx, h⟩ := bind_eq_ok h
  cases h
  exact Date.ofInts_valid hx

theorem newTime_calendrical {h m s us tz o : Object} (hn : newTime h m s us tz = .ok o) :
    o.Calendrical := by
  unfold newTime at hn
  obtain ⟨_, -, hn⟩ := bind_eq_ok hn
  obtain ⟨_, -, hn⟩ := bind_eq_ok hn
  obtain ⟨_, -, hn⟩ := bind_eq_ok hn
  obtain ⟨_, -, hn⟩ := bind_eq_ok hn
  obtain ⟨_, -, hn⟩ := bind_eq_ok hn
  obtain ⟨c, hc, hn⟩ := bind_eq_ok hn
  obtain ⟨_, -, hn⟩ := bind_eq_ok hn
  cases hn
  exact Clock.ofInts_valid hc

theorem newMoment_calendrical {y m d hh mm ss us tz o : Object}
    (h : newMoment y m d hh mm ss us tz = .ok o) : o.Calendrical := by
  unfold newMoment at h
  obtain ⟨_, -, h⟩ := bind_eq_ok h
  obtain ⟨_, -, h⟩ := bind_eq_ok h
  obtain ⟨_, -, h⟩ := bind_eq_ok h
  obtain ⟨_, -, h⟩ := bind_eq_ok h
  obtain ⟨x, hx, h⟩ := bind_eq_ok h
  obtain ⟨_, -, h⟩ := bind_eq_ok h
  obtain ⟨_, -, h⟩ := bind_eq_ok h
  obtain ⟨_, -, h⟩ := bind_eq_ok h
  obtain ⟨_, -, h⟩ := bind_eq_ok h
  obtain ⟨c, hc, h⟩ := bind_eq_ok h
  obtain ⟨_, -, h⟩ := bind_eq_ok h
  cases h
  exact ⟨Date.ofInts_valid hx, Clock.ofInts_valid hc⟩

theorem ofDateFields_calendrical {cls : String} {y m d : Int} {o : Object}
    (h : ofDateFields cls y m d = .ok o) : o.Calendrical := by
  unfold ofDateFields at h
  obtain ⟨x, hx, h⟩ := bind_eq_ok h
  split at h
  · cases h
    exact ⟨Date.ofInts_valid hx, Clock.midnight_valid⟩
  · cases h
    exact Date.ofInts_valid hx

/-! ## Arguments -/

section Arguments

variable {recv : Object} {args : List Object} {kwargs : List (String × Object)}

theorem bindParams_calendrical {q : String} {params : List String} {defaults : Nat}
    {ps : List (Option Object)} (hrecv : recv.Calendrical) (hargs : ∀ a ∈ args, a.Calendrical)
    (hkw : ∀ kv ∈ kwargs, kv.2.Calendrical) (h : bindParams q params defaults recv args kwargs = .ok ps) :
    ∀ x, some x ∈ ps → x.Calendrical := by
  unfold bindParams at h
  obtain ⟨b, hb, h⟩ := bind_eq_ok h
  cases h
  have hgiven : ∀ a ∈ recv :: args, a.Calendrical := by
    intro a ha
    rcases List.mem_cons.mp ha with rfl | ha
    · exact hrecv
    · exact hargs a ha
  intro x hx
  exact Signature.bind_positional hgiven hkw hb x (List.mem_of_mem_drop hx)

theorem oneParam_calendrical {q p : String} {o : Object} (hrecv : recv.Calendrical)
    (hargs : ∀ a ∈ args, a.Calendrical) (hkw : ∀ kv ∈ kwargs, kv.2.Calendrical)
    (h : oneParam q p recv args kwargs = .ok o) : o.Calendrical := by
  unfold oneParam at h
  obtain ⟨ps, hps, h⟩ := bind_eq_ok h
  split at h
  · cases h
    exact bindParams_calendrical hrecv hargs hkw hps _ List.mem_cons_self
  · cases h

end Arguments

/-! ## Moves between zones -/

/-- A moment of a day of the calendar brought into a zone's local time is
valid, when the zone's answers let it be brought there. -/
theorem fromUniversalBy_valid {tz : ZoneMethods} {m p : Date × Clock} {zs : Zones}
    (hm : m.1.OnCalendar) (h : fromUniversalBy tz m zs = .ok p) : p.1.Valid ∧ p.2.Valid := by
  simp only [fromUniversalBy] at h
  obtain ⟨_ | off, -, h⟩ := calc_bind_eq_ok h
  · cases h
  obtain ⟨_ | dst, -, h⟩ := calc_bind_eq_ok h
  · cases h
  obtain ⟨_, -, h⟩ := calc_bind_eq_ok h
  obtain ⟨_, -, h⟩ := calc_bind_eq_ok h
  obtain ⟨_, -, h⟩ := calc_bind_eq_ok h
  -- two moves, the second from where the first lands
  obtain ⟨q, hq, h⟩ := calc_bind_eq_ok h
  have hq := shiftMoment_valid hm hq
  obtain ⟨_ | dst', -, h⟩ := calc_bind_eq_ok h
  · cases h
  obtain ⟨_, -, h⟩ := calc_bind_eq_ok h
  exact shiftMoment_valid hq.1.toOnCalendar h

/-- A moment of a day of the calendar brought from its zone into another is
valid, when the zones' answers let it be brought there. -/
theorem intoZoneBy_valid {mine target : ZoneMethods} {m p : Date × Clock} {zs : Zones}
    (hm : m.1.OnCalendar) (h : intoZoneBy mine target m zs = .ok p) : p.1.Valid ∧ p.2.Valid := by
  simp only [intoZoneBy] at h
  obtain ⟨_ | off, -, h⟩ := calc_bind_eq_ok h
  · cases h
  obtain ⟨_, -, h⟩ := calc_bind_eq_ok h
  obtain ⟨u, hu, h⟩ := calc_bind_eq_ok h
  exact fromUniversalBy_valid (shiftMoment_valid hm hu).1.toOnCalendar h

/-- A moment of a day of the calendar brought into a zone from universal time
is valid, when the zone's answers let it be brought there. -/
theorem fromUniversal_calendrical {id : Nat} {dt o : Object} {zs : Zones} (hdt : dt.Calendrical)
    (h : fromUniversal id dt zs = .ok o) : o.Calendrical := by
  cases dt
  case moment d c z =>
    simp only [fromUniversal] at h
    cases hz : (z == some id)
    · simp only [hz, Bool.false_eq_true, ↓reduceIte] at h
      cases h
    simp only [hz, ↓reduceIte] at h
    obtain ⟨p, hp, h⟩ := calc_bind_eq_ok h
    cases h
    exact fromUniversalBy_valid hdt.1.toOnCalendar hp
  -- any other object is refused
  all_goals cases h

/-! ## The methods that make dates and times -/

section Methods

variable {self : Object} {args : List Object} {kwargs : List (String × Object)} {zs : Zones}
  {o : Object}

theorem callDate_fromordinal_calendrical (d : Date)
    (h : callDate d self "fromordinal" args kwargs zs = .ok o) : o.Calendrical := by
  simp +decide only [callDate, calc_read_bind] at h
  obtain ⟨_, -, h⟩ := calc_bind_eq_ok h
  obtain ⟨⟨_, _, _⟩, -, h⟩ := calc_bind_eq_ok h
  exact ofDateFields_calendrical h

theorem callDate_replace_calendrical (d : Date)
    (h : callDate d self "replace" args kwargs zs = .ok o) : o.Calendrical := by
  simp +decide only [callDate, calc_read_bind] at h
  obtain ⟨ps, -, h⟩ := calc_bind_eq_ok h
  -- one slot for each field; a list of another shape fails the assertion
  rcases ps with _ | ⟨y, _ | ⟨m, _ | ⟨dd, _ | ⟨_, _⟩⟩⟩⟩
  all_goals first
    | exact newDate_calendrical h
    | cases h

theorem callDate_add_calendrical {d : Date} (hd : d.OnCalendar)
    (h : callDate d self "__add__" args kwargs zs = .ok o) : o.Calendrical := by
  simp +decide only [callDate, calc_read_bind] at h
  obtain ⟨other, -, h⟩ := calc_bind_eq_ok h
  cases other
  case delta t =>
    obtain ⟨x, hx, h⟩ := calc_bind_eq_ok h
    cases h
    exact Date.addDays_valid hd hx
  -- any other operand is not handled
  all_goals
    cases h
    trivial

theorem callDate_sub_calendrical {d : Date} (hd : d.OnCalendar)
    (h : callDate d self "__sub__" args kwargs zs = .ok o) : o.Calendrical := by
  simp +decide only [callDate, calc_read_bind] at h
  obtain ⟨other, -, h⟩ := calc_bind_eq_ok h
  cases other
  case delta t =>
    obtain ⟨x, hx, h⟩ := calc_bind_eq_ok h
    cases h
    exact Date.addDays_valid hd hx
  -- a date less a date is a duration; any other operand is not handled
  case date e | moment e _ _ =>
    obtain ⟨_, -, h⟩ := calc_bind_eq_ok h
    cases h
    trivial
  all_goals
    cases h
    trivial

theorem callTime_replace_calendrical (c : Clock) (z : Option Nat)
    (h : callTime c z self "replace" args kwargs zs = .ok o) : o.Calendrical := by
  simp +decide only [callTime] at h
  obtain ⟨ps, -, h⟩ := calc_bind_eq_ok h
  rcases ps with _ | ⟨hh, _ | ⟨mm, _ | ⟨ss, _ | ⟨us, _ | ⟨tz, _ | ⟨_, _⟩⟩⟩⟩⟩⟩
  all_goals first
    | exact newTime_calendrical h
    | cases h

section Arguments

variable (hself : self.Calendrical) (hargs : ∀ a ∈ args, a.Calendrical)
  (hkw : ∀ kv ∈ kwargs, kv.2.Calendrical)
include hself hargs hkw

/-- `combine` checks the date it is given and takes the time of day of the
time it is given, which the invariant already holds for. -/
theorem callMoment_combine_calendrical (d : Date) (c : Clock) (z : Option Nat)
    (h : callMoment d c z self "combine" args kwargs zs = .ok o) : o.Calendrical := by
  simp +decide only [callMoment, calc_read_bind] at h
  obtain ⟨ps, hps, h⟩ := calc_bind_eq_ok h
  have hps := bindParams_calendrical hself hargs hkw hps
  -- a date and a time bound; a list of another shape fails the assertion
  rcases ps with _ | ⟨_ | dateArg, _ | ⟨_ | timeArg, _ | ⟨_, _⟩⟩⟩
  case cons.some.cons.some.nil =>
    have htime := hps timeArg (by simp)
    cases dateArg
    case date e | moment e _ _ =>
      obtain ⟨day, -, h⟩ := calc_bind_eq_ok h
      cases timeArg
      case time c2 z2 =>
        obtain ⟨clock, hclock, h⟩ := calc_bind_eq_ok h
        cases hclock
        obtain ⟨x, hx, h⟩ := calc_bind_eq_ok h
        cases h
        exact ⟨Date.ofInts_valid hx, htime⟩
      all_goals cases h
    all_goals cases h
  all_goals cases h

/-- `fromutc` brings a moment it is given into its zone. -/
theorem callZone_fromutc_calendrical (id : Nat)
    (h : callZone id "tzinfo" self "fromutc" args kwargs zs = .ok o) : o.Calendrical := by
  simp +decide only [callZone, calc_read_bind] at h
  obtain ⟨dt, hdt, h⟩ := calc_bind_eq_ok h
  exact fromUniversal_calendrical (oneParam_calendrical hself hargs hkw hdt) h

end Arguments

theorem callMoment_replace_calendrical (d : Date) (c : Clock) (z : Option Nat)
    (h : callMoment d c z self "replace" args kwargs zs = .ok o) : o.Calendrical := by
  simp +decide only [callMoment, calc_read_bind] at h
  obtain ⟨ps, -, h⟩ := calc_bind_eq_ok h
  rcases ps with _ | ⟨y, _ | ⟨m, _ | ⟨dd, _ | ⟨hh, _ | ⟨mm, _ | ⟨ss, _ | ⟨us, _ | ⟨tz, _ | ⟨_, _⟩⟩⟩⟩⟩⟩⟩⟩⟩
  all_goals first
    | exact newMoment_calendrical h
    | cases h

theorem callMoment_add_calendrical {d : Date} (hd : d.OnCalendar) (c : Clock) (z : Option Nat)
    (h : callMoment d c z self "__add__" args kwargs zs = .ok o) : o.Calendrical := by
  simp +decide only [callMoment, calc_read_bind] at h
  obtain ⟨other, -, h⟩ := calc_bind_eq_ok h
  cases other
  case delta t =>
    obtain ⟨p, hp, h⟩ := calc_bind_eq_ok h
    cases h
    exact shiftMoment_valid hd hp
  all_goals
    cases h
    trivial

theorem callMoment_sub_calendrical {d : Date} (hd : d.OnCalendar) (c : Clock) (z : Option Nat)
    (h : callMoment d c z self "__sub__" args kwargs zs = .ok o) : o.Calendrical := by
  simp +decide only [callMoment, calc_read_bind] at h
  obtain ⟨other, -, h⟩ := calc_bind_eq_ok h
  cases other
  case delta t =>
    obtain ⟨p, hp, h⟩ := calc_bind_eq_ok h
    cases h
    exact shiftMoment_valid hd hp
  case moment d2 c2 z2 =>
    obtain ⟨_, -, h⟩ := calc_bind_eq_ok h
    cases h
    trivial
  all_goals
    cases h
    trivial

/-- `astimezone` gives the moment back in its own zone, and otherwise moves it
to universal time and brings it into the other zone. -/
theorem callMoment_astimezone_calendrical {d : Date} (hd : d.OnCalendar) (c : Clock)
    (z : Option Nat) (hself : self.Calendrical)
    (h : callMoment d c z self "astimezone" args kwargs zs = .ok o) : o.Calendrical := by
  simp +decide only [callMoment, calc_read_bind] at h
  obtain ⟨tz, -, h⟩ := calc_bind_eq_ok h
  cases tz
  case zone target =>
    cases z with
    | none => cases h
    | some mine =>
      by_cases hsame : (mine == target) = true
      · simp only [hsame, ↓reduceIte] at h
        cases h
        exact hself
      · simp only [hsame, Bool.false_eq_true, ↓reduceIte] at h
        obtain ⟨p, hp, h⟩ := calc_bind_eq_ok h
        cases h
        exact intoZoneBy_valid hd hp
  all_goals cases h

/-- A duration plus or less a duration is a duration. -/
theorem callDuration_calendrical (t : Duration) {name : String}
    (hname : name = "__add__" ∨ name = "__sub__")
    (h : callDuration t self name args kwargs zs = .ok o) : o.Calendrical := by
  rcases hname with rfl | rfl
  all_goals
    simp +decide only [callDuration] at h
    obtain ⟨other, -, h⟩ := calc_bind_eq_ok h
    cases other
    case delta u =>
      obtain ⟨_, -, h⟩ := calc_bind_eq_ok h
      cases h
      trivial
    all_goals
      cases h
      trivial

end Methods

/-! ## Calls -/

/-- The methods that make a date, a time or a moment from other objects: the
date of an ordinal, `combine`, `replace`, `+` (also reflected) and `-`, and
the moves between zones. -/
def makingMethods : List String :=
  ["fromordinal", "combine", "replace", "__add__", "__radd__", "__sub__", "astimezone", "fromutc"]

section Calls

variable {args : List Object} {kwargs : List (String × Object)} {zs : Zones} {o : Object}
  {name : String}

theorem mem_makingMethods :
    name ∈ makingMethods ↔ name = "fromordinal" ∨ name = "combine" ∨ name = "replace" ∨
      name = "__add__" ∨ name = "__radd__" ∨ name = "__sub__" ∨ name = "astimezone" ∨
      name = "fromutc" := by
  simp [makingMethods]

theorem callMethod_date_calendrical {d : Date} (hd : d.Valid) (hname : name ∈ makingMethods)
    (h : callMethod (.date d) name args kwargs zs = .ok o) : o.Calendrical := by
  rcases mem_makingMethods.mp hname with rfl | rfl | rfl | rfl | rfl | rfl | rfl | rfl
  · exact callDate_fromordinal_calendrical d h
  · cases h
  · exact callDate_replace_calendrical d h
  · exact callDate_add_calendrical hd.toOnCalendar h
  · -- the reflected sum is the sum
    exact callDate_add_calendrical hd.toOnCalendar h
  · exact callDate_sub_calendrical hd.toOnCalendar h
  · cases h
  · cases h

theorem callMethod_time_calendrical (c : Clock) (z : Option Nat) (hname : name ∈ makingMethods)
    (h : callMethod (.time c z) name args kwargs zs = .ok o) : o.Calendrical := by
  rcases mem_makingMethods.mp hname with rfl | rfl | rfl | rfl | rfl | rfl | rfl | rfl
  case inr.inr.inl => exact callTime_replace_calendrical c z h
  all_goals cases h

theorem callMethod_delta_calendrical (t : Duration) (hname : name ∈ makingMethods)
    (h : callMethod (.delta t) name args kwargs zs = .ok o) : o.Calendrical := by
  rcases mem_makingMethods.mp hname with rfl | rfl | rfl | rfl | rfl | rfl | rfl | rfl
  case inr.inr.inr.inl => exact callDuration_calendrical t (.inl rfl) h
  case inr.inr.inr.inr.inr.inl => exact callDuration_calendrical t (.inr rfl) h
  all_goals cases h

section Arguments

variable (hargs : ∀ a ∈ args, a.Calendrical) (hkw : ∀ kv ∈ kwargs, kv.2.Calendrical)
include hargs hkw

theorem callMethod_moment_calendrical {d : Date} {c : Clock} {z : Option Nat}
    (hdc : (Object.moment d c z).Calendrical) (hname : name ∈ makingMethods)
    (h : callMethod (.moment d c z) name args kwargs zs = .ok o) : o.Calendrical := by
  have hd := hdc.1.toOnCalendar
  rcases mem_makingMethods.mp hname with rfl | rfl | rfl | rfl | rfl | rfl | rfl | rfl
  · exact callDate_fromordinal_calendrical d h
  · exact callMoment_combine_calendrical hdc hargs hkw d c z h
  · exact callMoment_replace_calendrical d c z h
  · exact callMoment_add_calendrical hd c z h
  · exact callMoment_add_calendrical hd c z h
  · exact callMoment_sub_calendrical hd c z h
  · exact callMoment_astimezone_calendrical hd c z hdc h
  · cases h

/-- A zone's only method among these is `fromutc`, whichever table of methods
it answers from. -/
theorem callMethod_zone_calendrical (id : Nat) (hname : name ∈ makingMethods)
    (h : callMethod (.zone id) name args kwargs zs = .ok o) : o.Calendrical := by
  unfold callMethod at h
  rw [calc_read_bind] at h
  have hslot : slotOf zs (.zone id) name =
      methodIn (zoneMethods ((Object.zoneOf? zs id).any Zone.answers)) name := rfl
  rw [hslot] at h
  generalize (Object.zoneOf? zs id).any Zone.answers = fixed at h
  rcases mem_makingMethods.mp hname with rfl | rfl | rfl | rfl | rfl | rfl | rfl | rfl
  case inr.inr.inr.inr.inr.inr.inr =>
    have hfromutc : methodIn (zoneMethods fixed) "fromutc" = .method "tzinfo" "fromutc" := by
      cases fixed <;> rfl
    rw [hfromutc] at h
    exact callZone_fromutc_calendrical (show Calendrical (.zone id) from trivial) hargs hkw id h
  all_goals
    cases fixed <;> cases h

/-- Every method that makes a date, a time or a moment, called on an object
that holds the invariant with arguments that hold it, makes one that holds it. -/
theorem callMethod_calendrical {self : Object} (hname : name ∈ makingMethods)
    (hself : self.Calendrical) (h : callMethod self name args kwargs zs = .ok o) :
    o.Calendrical := by
  cases self
  case date d => exact callMethod_date_calendrical hself hname h
  case time c z => exact callMethod_time_calendrical c z hname h
  case moment d c z => exact callMethod_moment_calendrical hargs hkw hself hname h
  case delta t => exact callMethod_delta_calendrical t hname h
  case zone id => exact callMethod_zone_calendrical hargs hkw id hname h
  -- other objects have no methods
  all_goals cases h

end Arguments

/-- Calling a class makes an object of it through the checked constructors, or
fails: the constructors check every field, whatever the arguments. -/
theorem construct_calendrical {cls : String} (h : construct cls args kwargs zs = .ok o) :
    o.Calendrical := by
  by_cases hdelta : cls = "timedelta"
  · subst hdelta
    simp +decide only [construct, calc_read_bind] at h
    obtain ⟨ps, -, h⟩ := calc_bind_eq_ok h
    rcases ps with _ | ⟨_, _ | ⟨_, _ | ⟨_, _ | ⟨_, _ | ⟨_, _ | ⟨_, _ | ⟨_, _ | ⟨_, _⟩⟩⟩⟩⟩⟩⟩⟩
    -- a duration of its seven parts
    case cons.cons.cons.cons.cons.cons.cons.nil =>
      obtain ⟨_, -, h⟩ := calc_bind_eq_ok h
      cases h
      trivial
    all_goals cases h
  by_cases hdate : cls = "date"
  · subst hdate
    simp +decide only [construct, calc_read_bind] at h
    obtain ⟨ps, -, h⟩ := calc_bind_eq_ok h
    rcases ps with _ | ⟨_ | y, _ | ⟨m, _ | ⟨dd, _ | ⟨_, _⟩⟩⟩⟩
    all_goals first
      | exact newDate_calendrical h
      | cases h
  by_cases htime : cls = "time"
  · subst htime
    simp +decide only [construct, calc_read_bind] at h
    obtain ⟨ps, -, h⟩ := calc_bind_eq_ok h
    rcases ps with _ | ⟨hh, _ | ⟨mm, _ | ⟨ss, _ | ⟨us, _ | ⟨tz, _ | ⟨_, _⟩⟩⟩⟩⟩⟩
    all_goals first
      | exact newTime_calendrical h
      | cases h
  by_cases hmoment : cls = "datetime"
  · subst hmoment
    simp +decide only [construct, calc_read_bind] at h
    obtain ⟨ps, -, h⟩ := calc_bind_eq_ok h
    rcases ps with _ | ⟨_ | y, _ | ⟨m, _ | ⟨dd, _ | ⟨hh, _ | ⟨mm, _ | ⟨ss, _ | ⟨us, _ | ⟨tz, _ | ⟨_, _⟩⟩⟩⟩⟩⟩⟩⟩⟩
    all_goals first
      | exact newMoment_calendrical h
      | cases h
  -- no other class can be made: the facts above rule out the four classes that can
  simp only [construct, calc_read_bind] at h
  by_cases hempty : (args.isEmpty && kwargs.isEmpty) = true
  · simp only [hempty, ↓reduceIte] at h
    cases h
  · simp only [hempty, Bool.false_eq_true, ↓reduceIte] at h
    cases h

/-- A name that is neither a class method nor an instance method of a class
makes nothing when called on it: at most it names a constant, which cannot be
called. -/
theorem callClass_unknown_ne_ok {cls : String}
    (hclass : (classMethods cls).find? (·.1 == name) = none)
    (hinstance : (instanceMethods cls).find? (·.1 == name) = none) :
    callClass cls name args kwargs zs ≠ .ok o := by
  intro h
  unfold callClass at h
  rw [calc_read_bind, hclass, hinstance] at h
  generalize classAttribute? cls name = attr at h
  cases attr <;> cases h

/-- `fromordinal` is a class method of dates and of moments and of no other
class: the date of an ordinal, checked. -/
theorem callClass_fromordinal_calendrical {cls : String}
    (h : callClass cls "fromordinal" args kwargs zs = .ok o) : o.Calendrical := by
  by_cases hdate : cls = "date"
  · subst hdate
    exact callDate_fromordinal_calendrical Date.first h
  by_cases hmoment : cls = "datetime"
  · subst hmoment
    exact callDate_fromordinal_calendrical Date.first h
  -- no other class has it, as a class method or as a method of its objects
  have hclass : (classMethods cls).find? (·.1 == "fromordinal") = none := by
    unfold classMethods
    split <;> first | rfl | simp_all
  have hinstance : (instanceMethods cls).find? (·.1 == "fromordinal") = none := by
    unfold instanceMethods
    split <;> first | rfl | simp_all
  exact absurd h (callClass_unknown_ne_ok hclass hinstance)

section Arguments

variable (hargs : ∀ a ∈ args, a.Calendrical) (hkw : ∀ kv ∈ kwargs, kv.2.Calendrical)
include hargs hkw

/-- `combine` is a class method of moments and of no other class. -/
theorem callClass_combine_calendrical {cls : String}
    (h : callClass cls "combine" args kwargs zs = .ok o) : o.Calendrical := by
  by_cases hmoment : cls = "datetime"
  · subst hmoment
    exact callMoment_combine_calendrical (show Calendrical (.kind "datetime") from trivial) hargs hkw
      Date.first Clock.midnight none h
  have hclass : (classMethods cls).find? (·.1 == "combine") = none := by
    unfold classMethods
    split <;> first | rfl | simp_all
  have hinstance : (instanceMethods cls).find? (·.1 == "combine") = none := by
    unfold instanceMethods
    split <;> first | rfl | simp_all
  exact absurd h (callClass_unknown_ne_ok hclass hinstance)

end Arguments

end Calls

/-! ## Timestamps -/

/-- The moments of timestamps take the fields of a civil time unchecked, and
the civil time of the first second of the year 10000 lies in that year, past
the years a date may have. -/
theorem civilTime_past_maxYear :
    civilTime 253402300800 = .ok (⟨10000, 1, 1⟩, Clock.midnight) ∧ ¬(⟨10000, 1, 1⟩ : Date).Valid :=
  ⟨by rfl, by decide⟩

end Calendar

end Basis
