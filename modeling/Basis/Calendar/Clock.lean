import Basis.Calendar.Date

/-!
# Times of day

A `Clock` is a time of day to the microsecond. Clocks made from their fields
(`Clock.ofFields`) check all four for being integers, then the hour (0..23),
the minute and the second (0..59) and the microsecond (0..999999) for their
ranges, in that order.

A clock is written `HH:MM:SS`, with `.ffffff` when the microseconds are not
zero (`text`); its constructor call drops a zero microsecond, and then a zero
second (`reprArgs`); it is pickled as six bytes: hour, minute, second and the
three bytes of the microsecond, high first.
-/

namespace Basis.Calendar

/-- A time of day. -/
structure Clock where
  /-- The hour. -/
  hour : Int
  /-- The minute. -/
  minute : Int
  /-- The second. -/
  second : Int
  /-- The microsecond. -/
  micro : Int
  deriving DecidableEq, Inhabited, Repr

namespace Clock

/-- Midnight. -/
def midnight : Clock := ⟨0, 0, 0, 0⟩

/-- The last microsecond of the day. -/
def last : Clock := ⟨23, 59, 59, 999999⟩

/-- The clock of checked integer fields. -/
def ofInts (h m s us : Int) : Except Failure Clock := do
  unless 0 ≤ h && h ≤ 23 do throw (fieldRange "hour must be in 0..23" h)
  unless 0 ≤ m && m ≤ 59 do throw (fieldRange "minute must be in 0..59" m)
  unless 0 ≤ s && s ≤ 59 do throw (fieldRange "second must be in 0..59" s)
  unless 0 ≤ us && us ≤ 999999 do throw (fieldRange "microsecond must be in 0..999999" us)
  return ⟨h, m, s, us⟩

/-- The clock of fields given as arguments. -/
def ofFields (h m s us : Value) : Except Failure Clock := do
  let h ← intField h
  let m ← intField m
  let s ← intField s
  let us ← intField us
  ofInts h m s us

/-- The clock as `HH:MM:SS[.ffffff]`. -/
def text (c : Clock) : String :=
  let base := s!"{zeroPadded 2 c.hour}:{zeroPadded 2 c.minute}:{zeroPadded 2 c.second}"
  if c.micro != 0 then base ++ "." ++ zeroPadded 6 c.micro else base

/-- The fields after the hour and minute that a constructor call shows: the
second and microsecond, dropping trailing zeros. -/
def reprTail (c : Clock) : String :=
  if c.micro != 0 then s!", {c.second}, {c.micro}"
  else if c.second != 0 then s!", {c.second}"
  else ""

/-- The arguments of the constructor call that makes the clock. -/
def reprArgs (c : Clock) : String := s!"{c.hour}, {c.minute}" ++ c.reprTail

/-- The bytes of the clock. -/
def stateBytes (c : Clock) : List Int :=
  [c.hour, c.minute, c.second, c.micro.fdiv 65536, (c.micro.fdiv 256).fmod 256, c.micro.fmod 256]

/-- The seconds since midnight. -/
def seconds (c : Clock) : Int := c.hour * 3600 + c.minute * 60 + c.second

end Clock

end Basis.Calendar
