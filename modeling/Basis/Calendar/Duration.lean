import Basis.Failure
import Basis.Calendar.Gregorian
import Basis.Decimal.Integral
import Basis.Decimal.Reading
import Basis.Value.Basic

/-!
# Durations

A `Duration` is a signed length of time kept as days, seconds and
microseconds, with `0 ≤ seconds < 86400` and `0 ≤ microseconds < 10^6`, so
that only the days carry the sign; a duration of more than 999999999 days
either way cannot be made (`Duration.make`).

A duration is built from amounts of weeks, days, hours, minutes, seconds,
milliseconds and microseconds, each an integer or a float (`Duration.ofParts`).
The integral parts are added exactly in microseconds; the fractions of the
float amounts are added up as floats and rounded half away from zero at the
end.

It is written as `datetime.timedelta(d, s, us)`, dropping trailing zero
fields but the days, or as `[-]D day[s], H:MM:SS[.ffffff]`.
-/

namespace Basis.Calendar

open Basis.Decimal

/-- A signed length of time: days, then seconds and microseconds within a day. -/
structure Duration where
  /-- Whole days, carrying the sign. -/
  days : Int
  /-- Seconds within the day, from 0 to 86399. -/
  seconds : Int
  /-- Microseconds within the second, from 0 to 999999. -/
  micros : Int
  deriving DecidableEq, Inhabited, Repr

namespace Duration

/-- The largest number of days a duration has either way. -/
def maxDays : Int := 999999999

/-- A duration of days, seconds and microseconds; with `normalize`, seconds and
microseconds out of their ranges are carried first. Fails when the days are
too many. -/
def make (d s us : Int) (normalize : Bool) : Except Failure Duration :=
  let (d, s, us) :=
    if normalize then
      let (s, us) := carry s us 1000000
      let (d, s) := carry d s 86400
      (d, s, us)
    else (d, s, us)
  if -maxDays ≤ d && d ≤ maxDays then .ok ⟨d, s, us⟩
  else .error (.overflowError s!"days={d}; must have magnitude <= {maxDays}")

/-- The duration of a number of microseconds. -/
def ofMicros (us : Int) : Except Failure Duration :=
  let s := us.fdiv 1000000
  let us := us.fmod 1000000
  make (s.fdiv 86400) (s.fmod 86400) us false

/-- The length in microseconds. -/
def toMicros (t : Duration) : Int := (t.days * 86400 + t.seconds) * 1000000 + t.micros

/-- The zero duration. -/
def zero : Duration := ⟨0, 0, 0⟩

/-- The most negative duration, `timedelta.min`. -/
def least : Duration := ⟨-maxDays, 0, 0⟩

/-- The most positive duration, `timedelta.max`. -/
def greatest : Duration := ⟨maxDays, 86399, 999999⟩

/-- Whether the duration is not zero. -/
def nonzero (t : Duration) : Bool := t.days != 0 || t.seconds != 0 || t.micros != 0

/-- The representation, as the module's constructor call. -/
def repr (t : Duration) : String :=
  if t.micros != 0 then s!"datetime.timedelta({t.days}, {t.seconds}, {t.micros})"
  else if t.seconds != 0 then s!"datetime.timedelta({t.days}, {t.seconds})"
  else s!"datetime.timedelta({t.days})"

/-- A natural number in decimal, padded with zeros to a width. -/
def padded (width : Nat) (n : Int) : String :=
  let ds := toString n.natAbs
  (if n < 0 then "-" else "") ++ String.ofList (List.replicate (width - ds.length) '0') ++ ds

/-- The text: days if any, then hours, minutes, seconds and microseconds if any. -/
def text (t : Duration) : String :=
  let mm := t.seconds.fdiv 60
  let ss := t.seconds.fmod 60
  let hh := mm.fdiv 60
  let mm := mm.fmod 60
  let clock := s!"{hh}:{padded 2 mm}:{padded 2 ss}"
  let withDays :=
    if t.days != 0 then
      let plural := if t.days.natAbs != 1 then "s" else ""
      s!"{t.days} day{plural}, " ++ clock
    else clock
  if t.micros != 0 then withDays ++ "." ++ padded 6 t.micros else withDays

/-- The length in seconds, the float nearest to the exact value. -/
def totalSeconds (t : Duration) : Float :=
  let us := t.toMicros
  let text := (if us < 0 then "-" else "") ++ toString (us.natAbs / 1000000) ++ "." ++
    padded 6 (us.natAbs % 1000000 : Nat)
  (readFloat? text).getD 0.0

/-- The state the duration is compared and pickled by. -/
def state (t : Duration) : List Int := [t.days, t.seconds, t.micros]

/-- The sum of two durations. -/
def add (a b : Duration) : Except Failure Duration :=
  make (a.days + b.days) (a.seconds + b.seconds) (a.micros + b.micros) true

/-- The difference of two durations. -/
def sub (a b : Duration) : Except Failure Duration :=
  make (a.days - b.days) (a.seconds - b.seconds) (a.micros - b.micros) true

/-- The negated duration. -/
def neg (t : Duration) : Except Failure Duration := make (-t.days) (-t.seconds) (-t.micros) true

/-- The duration itself, remade from its fields without carrying. -/
def pos (t : Duration) : Except Failure Duration := make t.days t.seconds t.micros false

/-- The duration without its sign: negated when its days are negative. -/
def abs (t : Duration) : Except Failure Duration := if t.days < 0 then t.neg else .ok t

/-- The duration times an integer. -/
def mul (t : Duration) (k : Int) : Except Failure Duration := ofMicros (t.toMicros * k)

/-- The duration divided by an integer, rounded down to a microsecond. -/
def floorDiv (t : Duration) (k : Int) : Except Failure Duration :=
  if k == 0 then .error ⟨"ZeroDivisionError", "integer division or modulo by zero"⟩
  else ofMicros (t.toMicros.fdiv k)

/-- The integer a float truncates to, or the failure to have one. -/
def truncate (x : Float) : Except Failure Int :=
  match integralPart? x with
  | some n => .ok n
  | none =>
    if x.isNaN then .error (.valueError "cannot convert float NaN to integer")
    else .error (.overflowError "cannot convert float infinity to integer")

/-- The fractional and integral parts of a float, both with its sign. -/
def splitFloat (x : Float) : Float × Float :=
  if x.isInf then (0.0, x)
  else
    let whole := if x ≥ 0.0 then x.floor else x.ceil
    (x - whole, whole)

/-- A float rounded to an integer, halves away from zero. -/
def roundHalfAway (x : Float) : Except Failure Int :=
  if x ≥ 0.0 then truncate (x + 0.5).floor else truncate (x - 0.5).ceil

/-- An amount of a unit given to make a duration: an integer, a float, or a
value of another type, kept by the text of its type. -/
inductive Amount where
  /-- An integer amount. -/
  | whole (n : Int)
  /-- A float amount. -/
  | real (x : Float)
  /-- A value of another type. -/
  | other (typeText : String)

/-- The amount of a plain value; booleans count as 0 and 1. -/
def Amount.ofValue : Value → Amount
  | .int n => .whole n
  | .bool b => .whole (if b then 1 else 0)
  | .float x => .real x
  | v => .other s!"<class '{v.typeName}'>"

/-- Adds an amount of a unit of `factor` microseconds to a running total and
its leftover fraction. The leftover is absent while no float amount has left a
fraction: it stands for the `0.0` the sum starts from. -/
def accumulate (tag : String) (sofar : Int) (amount : Amount) (factor : Int) (leftover : Option Float) :
    Except Failure (Int × Option Float) :=
  match amount with
  | .whole n => .ok (sofar + n * factor, leftover)
  | .real x => do
    let (frac, whole) := splitFloat x
    let total := sofar + (← truncate whole) * factor
    if frac == 0.0 then return (total, leftover)
    let (frac2, whole2) := splitFloat (Float.ofInt factor * frac)
    return (total + (← truncate whole2), some (leftover.getD 0.0 + frac2))
  | .other t => .error (.typeError s!"unsupported type for timedelta {tag} component: {t}")

/-- The total with a leftover fraction rounded into it, unless the fraction is zero. -/
def addLeftover (total : Int) : Option Float → Except Failure Int
  | some x => if x != 0.0 then do pure (total + (← roundHalfAway x)) else pure total
  | none => pure total

/-- Adds the amount of a unit, named by its tag and worth `factor`
microseconds, when it is given. -/
def accumulateUnit (acc : Int × Option Float) : String × Option Amount × Int → Except Failure (Int × Option Float)
  | (tag, some amount, factor) => accumulate tag acc.1 amount factor acc.2
  | (_, none, _) => .ok acc

/-- A duration from optional amounts of microseconds, milliseconds, seconds,
minutes, hours, days and weeks, added in that order. -/
def ofParts (micros millis secs mins hours days weeks : Option Amount) : Except Failure Duration := do
  let units : List (String × Option Amount × Int) :=
    [("microseconds", micros, 1), ("milliseconds", millis, 1000), ("seconds", secs, 1000000),
      ("minutes", mins, 60000000), ("hours", hours, 3600000000), ("days", days, 86400000000),
      ("weeks", weeks, 604800000000)]
  let (total, leftover) ← units.foldlM accumulateUnit (0, none)
  ofMicros (← addLeftover total leftover)

/-- The duration of a number of minutes. -/
def ofMinutes (m : Int) : Except Failure Duration := make 0 (m * 60) 0 true

/-- Compares two durations by their state: days first, then seconds, then
microseconds. -/
def compare (a b : Duration) : Ordering :=
  (Ord.compare a.days b.days).then ((Ord.compare a.seconds b.seconds).then (Ord.compare a.micros b.micros))

end Duration

end Basis.Calendar
