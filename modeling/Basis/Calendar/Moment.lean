import Basis.Calendar.Render

/-!
# Arithmetic of moments and times of day

* `normalizeMoment` carries microseconds into seconds, seconds into minutes,
  minutes into hours and hours into days, then days into months and years;
  it fails when the year leaves 1..9999, unless told to ignore that.
  `normalizeMomentFields` does the same for a month of any range.
* A moment plus a duration adds the duration's days, seconds and microseconds
  to the moment's fields and normalizes (`shiftMoment`).
* The difference of two moments is the difference of their fields; when their
  zones differ and give different offsets it is corrected by the offsets, and
  a moment with an offset cannot be taken from one without (`momentDiff`).
* Moments compare by their fields when they share a zone or their zones give
  one offset, else by their difference (`compareMoments`); times of day
  compare by their fields less the offset, in minutes (`compareTimes`).
* `civilTime` breaks seconds since the epoch into a date and a time of day in
  universal time, as the C library does for a 64-bit time.
-/

namespace Basis.Calendar

/-- Moment fields carried into their ranges; fails when the year leaves
1..9999 unless `ignoreOverflow`. -/
def normalizeMoment (y : Int) (m : Nat) (d hh mm ss us : Int) (ignoreOverflow : Bool) :
    Except Failure (Date × Clock) :=
  let (ss, us) := carry ss us 1000000
  let (mm, ss) := carry mm ss 60
  let (hh, mm) := carry hh mm 60
  let (d, hh) := carry d hh 24
  let (y, m, d) := normalizeDate y m d
  if !ignoreOverflow && !(minYear ≤ y && y ≤ maxYear) then .error (.overflowError "date value out of range")
  else .ok (⟨y, m, d⟩, ⟨hh, mm, ss, us⟩)

/-- Moment fields of any range carried into their ranges, the month as well:
the time of day as `normalizeMoment` carries it, then the date by
`Date.normalizeFields`. -/
def normalizeMomentFields (y m d hh mm ss us : Int) (ignoreOverflow : Bool) :
    Except Failure (Date × Clock) := do
  let (ss, us) := carry ss us 1000000
  let (mm, ss) := carry mm ss 60
  let (hh, mm) := carry hh mm 60
  let (d, hh) := carry d hh 24
  let date ← Date.normalizeFields y m d ignoreOverflow
  return (date, ⟨hh, mm, ss, us⟩)

/-- A moment moved by a duration times a factor (1 or -1). -/
def shiftMoment (d : Date) (c : Clock) (t : Duration) (factor : Int) : Except Failure (Date × Clock) :=
  normalizeMoment d.year d.month (d.day + t.days * factor) c.hour c.minute
    (c.second + t.seconds * factor) (c.micro + t.micros * factor) false

/-- The fields of a moment in the order it compares by. -/
def momentKey (d : Date) (c : Clock) : List Int :=
  [d.year, d.month, d.day, c.hour, c.minute, c.second, c.micro]

/-- Compares two lists of integers, first difference first. -/
def compareKeys : List Int → List Int → Ordering
  | [], [] => .eq
  | [], _ => .lt
  | _, [] => .gt
  | a :: as, b :: bs => if a < b then .lt else if b < a then .gt else compareKeys as bs

/-- The difference of two dates, in whole days. -/
def dateDiff (d1 d2 : Date) : Except Failure Duration := Duration.make (d1.toOrdinal - d2.toOrdinal) 0 0 false

/-- The difference of two moments' fields, zones aside. -/
def fieldDiff (d1 : Date) (c1 : Clock) (d2 : Date) (c2 : Clock) : Except Failure Duration :=
  Duration.make (d1.toOrdinal - d2.toOrdinal)
    ((c1.hour - c2.hour) * 3600 + (c1.minute - c2.minute) * 60 + (c1.second - c2.second))
    (c1.micro - c2.micro) true

/-- The difference of two moments, corrected by their zones' offsets. -/
def momentDiff (d1 : Date) (c1 : Clock) (z1 : Option Nat) (d2 : Date) (c2 : Clock) (z2 : Option Nat) :
    Calc Duration := do
  let base ← fieldDiff d1 c1 d2 c2
  if z1 == z2 then return base
  let off1 ← zoneMinutes z1 "utcoffset"
  let off2 ← zoneMinutes z2 "utcoffset"
  if off1 == off2 then return base
  match off1, off2 with
  | some a, some b => base.add (← Duration.ofMicros ((b - a) * 60000000))
  | _, _ => throw (.typeError "can't subtract offset-naive and offset-aware datetimes")

/-- Compares two moments. -/
def compareMoments (d1 : Date) (c1 : Clock) (z1 : Option Nat) (d2 : Date) (c2 : Clock) (z2 : Option Nat) :
    Calc Ordering := do
  let base := compareKeys (momentKey d1 c1) (momentKey d2 c2)
  if z1 == z2 then return base
  let off1 ← if z1.isSome then zoneMinutes z1 "utcoffset" else pure none
  let off2 ← if z2.isSome then zoneMinutes z2 "utcoffset" else pure none
  if off1 == off2 then return base
  if off1.isNone || off2.isNone then
    throw (.typeError "can't compare offset-naive and offset-aware datetimes")
  -- only the sign of the difference's days counts: a zero difference still orders above
  let diff ← momentDiff d1 c1 z1 d2 c2 z2
  return if diff.days < 0 then .lt else .gt

/-- Compares two times of day. -/
def compareTimes (c1 : Clock) (z1 : Option Nat) (c2 : Clock) (z2 : Option Nat) : Calc Ordering := do
  let base := compareKeys [c1.hour, c1.minute, c1.second, c1.micro] [c2.hour, c2.minute, c2.second, c2.micro]
  if z1 == z2 then return base
  let off1 ← zoneMinutes z1 "utcoffset"
  let off2 ← zoneMinutes z2 "utcoffset"
  if off1 == off2 then return base
  match off1, off2 with
  | some a, some b =>
    return compareKeys [c1.hour * 60 + c1.minute - a, c1.second, c1.micro]
      [c2.hour * 60 + c2.minute - b, c2.second, c2.micro]
  | _, _ => throw (.typeError "can't compare offset-naive and offset-aware times")

/-- The ordinal of January 1, 1970. -/
def epochOrdinal : Int := 719163

/-- The first second after the range of a 64-bit time. -/
def timeLimit : Int := 9223372036854775808

/-- Seconds since the epoch as a date and a time of day in universal time;
fails outside a 64-bit time or when the year does not fit a C int. -/
def civilTime (t : Int) : Except Failure (Date × Clock) := do
  unless -timeLimit ≤ t && t < timeLimit do
    throw (.overflowError "timestamp out of range for platform time_t")
  let d := Date.ofOrdinal (t.fdiv 86400 + epochOrdinal)
  let s := t.fmod 86400
  unless -2147483648 ≤ d.year - 1900 && d.year - 1900 ≤ 2147483647 do
    throw ⟨"OSError", "[Errno 75] Value too large for defined data type"⟩
  return (d, ⟨s / 3600, s % 3600 / 60, s % 60, 0⟩)

/-- The seconds a timestamp argument names for the C library: an integer, or a
float rounded down. -/
def timestampSeconds (zs : Zones) : Object → Except Failure Int
  | .plain (.int n) => .ok n
  | .plain (.bool b) => .ok (if b then 1 else 0)
  | .plain (.float x) =>
    if x.isNaN then .error (.valueError "Invalid value NaN (not a number)")
    else
      match Duration.truncate x.floor with
      | .ok n => if -timeLimit ≤ n && n < timeLimit then .ok n
        else .error (.overflowError "timestamp out of range for platform time_t")
      | .error _ => .error (.overflowError "timestamp out of range for platform time_t")
  | o => .error (.typeError s!"'{o.typeName zs}' object cannot be interpreted as an integer")

/-- A timestamp argument rounded down, and the fraction left over. -/
def floorTimestamp (zs : Zones) : Object → Except Failure (Int × Float)
  | .plain (.int n) => .ok (n, 0.0)
  | .plain (.bool b) => .ok (if b then 1 else 0, 0.0)
  | .plain (.float x) => do
    let n ← Duration.truncate x.floor
    return (n, x - x.floor)
  | o => .error (.typeError s!"must be real number, not {o.typeName zs}")

/-- The date and time of day in universal time of a timestamp argument, to the
microsecond (rounded half up; a second that rounds up rolls over). -/
def momentOfTimestamp (zs : Zones) (t : Object) : Except Failure (Date × Clock) := do
  let (secs, frac) ← floorTimestamp zs t
  let us ← Duration.roundHalfAway (frac * 1000000.0)
  let (secs, us) := if us == 1000000 then (secs + 1, 0) else (secs, us)
  let (d, c) ← civilTime secs
  return (d, { c with second := min c.second 59, micro := us })

end Basis.Calendar
