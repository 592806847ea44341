import Basis.Failure
import Basis.Value.Basic
import Basis.Calendar.Gregorian
import Basis.Calendar.Numerals
import Basis.Calendar.TimeFields

/-!
# Dates

A `Date` is a day of the proleptic Gregorian calendar. Dates made from their
fields (`Date.ofFields`) have years from 1 to 9999; dates that the calendar
computes from a timestamp keep whatever year the computation gives.

* The fields are checked all for being integers first (a boolean counts as 0
  or 1, a float is refused by name), then the year, the month and the day for
  their ranges, in that order; a field out of range fails with the rule and the
  value, written as a pair.
* `Date.addDays` moves a date by days and fails when the year leaves 1..9999.
* `Date.normalizeFields` brings fields of any range into the calendar, the month
  first and then the day, and fails the same way unless told to ignore the year.
* A date is written `YYYY-MM-DD` (`isoText`), as the constructor call
  `datetime.date(Y, M, D)` (`repr`) and as `Www Mmm DD HH:MM:SS YYYY`
  (`ctimeText`); it is pickled as four bytes: the year's two, the month, the day.
-/

namespace Basis.Calendar

/-- The first year a date may be made with. -/
def minYear : Int := 1

/-- The last year a date may be made with. -/
def maxYear : Int := 9999

/-- A field of a date or a time given as an argument: an integer, a boolean
counting as 0 or 1. -/
def intField : Value → Except Failure Int
  | .int n => .ok n
  | .bool b => .ok (if b then 1 else 0)
  | .float _ => .error (.typeError "integer argument expected, got float")
  | _ => .error (.typeError "an integer is required")

/-- The failure of a field out of its range: the rule and the value, as a pair. -/
def fieldRange (rule : String) (v : Int) : Failure := .valueError s!"('{rule}', {v})"

/-- Integers as unsigned bytes, failing for one outside 0..255. -/
def packBytes (ns : List Int) : Except Failure ByteArray :=
  if ns.all fun n => 0 ≤ n && n ≤ 255 then .ok ⟨(ns.map fun n => n.toNat.toUInt8).toArray⟩
  else .error ⟨"error", "ubyte format requires 0 <= number <= 255"⟩

/-- The three-letter names of the days of the week, from Monday. -/
def dayAbbreviations : List String := ["Mon", "Tue", "Wed", "Thu", "Fri", "Sat", "Sun"]

/-- The three-letter names of the months. -/
def monthAbbreviations : List String :=
  ["Jan", "Feb", "Mar", "Apr", "May", "Jun", "Jul", "Aug", "Sep", "Oct", "Nov", "Dec"]

/-- A day of the calendar. -/
structure Date where
  /-- The year. -/
  year : Int
  /-- The month, from 1 to 12. -/
  month : Nat
  /-- The day of the month, from 1. -/
  day : Nat
  deriving DecidableEq, Inhabited, Repr

namespace Date

/-- The date of checked integer fields. -/
def ofInts (y m d : Int) : Except Failure Date := do
  unless minYear ≤ y && y ≤ maxYear do throw (fieldRange "year must be in 1..9999" y)
  unless 1 ≤ m && m ≤ 12 do throw (fieldRange "month must be in 1..12" m)
  let dim := daysInMonth y m.toNat
  unless 1 ≤ d && d ≤ dim do throw (fieldRange s!"day must be in 1..{dim}" d)
  return ⟨y, m.toNat, d.toNat⟩

/-- The date of fields given as arguments: all are checked to be integers
before any is checked for its range. -/
def ofFields (y m d : Value) : Except Failure Date := do
  let y ← intField y
  let m ← intField m
  let d ← intField d
  ofInts y m d

/-- The first date. -/
def first : Date := ⟨1, 1, 1⟩

/-- The last date. -/
def last : Date := ⟨9999, 12, 31⟩

/-- The ordinal of the date: January 1 of year 1 is 1. -/
def toOrdinal (d : Date) : Int := ordinal d.year d.month d.day

/-- The date of an ordinal. -/
def ofOrdinal (n : Int) : Date :=
  let (y, m, d) := Calendar.ofOrdinal n
  ⟨y, m, d⟩

/-- The day of the week, Monday being 0. -/
def weekday (d : Date) : Nat := weekdayOf d.toOrdinal

/-- The day of the week, Monday being 1 and Sunday 7. -/
def isoWeekday (d : Date) : Nat := d.weekday + 1

/-- The ISO year, week and weekday. -/
def isoCalendar (d : Date) : Int × Int × Int := Calendar.isoCalendar d.year d.month d.day

/-- The day of the year, from 1. -/
def yearday (d : Date) : Nat := daysBeforeMonth d.year d.month + d.day

/-- The fields of the date at a time of day, with a daylight-saving flag. -/
def fields (d : Date) (hour minute second dst : Int) : TimeFields :=
  { year := d.year, month := d.month, day := d.day, hour, minute, second,
    weekday := d.weekday, yearday := d.yearday, dst }

/-- The fields as a list, in the order of a time tuple. -/
def fieldList (t : TimeFields) : List Int :=
  [t.year, t.month, t.day, t.hour, t.minute, t.second, t.weekday, t.yearday, t.dst]

/-- The date as `YYYY-MM-DD`. -/
def isoText (d : Date) : String :=
  s!"{zeroPadded 4 d.year}-{zeroPadded 2 d.month}-{zeroPadded 2 d.day}"

/-- The date as the constructor call that makes it. -/
def repr (d : Date) : String := s!"datetime.date({d.year}, {d.month}, {d.day})"

/-- The date at a time of day as `Www Mmm DD HH:MM:SS YYYY`. -/
def ctimeText (d : Date) (hour minute second : Int) : String :=
  let dayName := dayAbbreviations.getD d.weekday "?"
  let monthName := monthAbbreviations.getD (d.month - 1) "?"
  s!"{dayName} {monthName} " ++
    s!"{blankPadded 2 d.day} {zeroPadded 2 hour}:{zeroPadded 2 minute}:{zeroPadded 2 second} " ++
    zeroPadded 4 d.year

/-- The bytes of the year, the month and the day. -/
def stateBytes (d : Date) : List Int := [d.year.fdiv 256, d.year.fmod 256, d.month, d.day]

/-- A date whose day may lie outside its month, brought into the calendar;
fails when the year leaves 1..9999. -/
def normalize (y : Int) (m : Nat) (d : Int) : Except Failure Date :=
  let (y, m, d) := normalizeDate y m d
  if minYear ≤ y && y ≤ maxYear then .ok ⟨y, m, d⟩
  else .error (.overflowError "date value out of range")

/-- The date some days later (earlier for a negative count). -/
def addDays (d : Date) (n : Int) : Except Failure Date := normalize d.year d.month (d.day + n)

/-- Date fields of any range brought into the calendar: a month outside 1..12
first, counted on from January of the year, then the day; fails when the year
leaves 1..9999, unless `ignoreOverflow`. -/
def normalizeFields (y m d : Int) (ignoreOverflow : Bool) : Except Failure Date :=
  let (y, m) := normalizeMonth y m
  let (y, m, d) := normalizeDate y m d
  if !ignoreOverflow && !(minYear ≤ y && y ≤ maxYear) then .error (.overflowError "date value out of range")
  else .ok ⟨y, m, d⟩

end Date

end Basis.Calendar
