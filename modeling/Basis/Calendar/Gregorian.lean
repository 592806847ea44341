/-!
# The proleptic Gregorian calendar

Days are counted by ordinal: January 1 of year 1 is day 1, and the calendar
runs on unchanged in both directions. A year is a leap year when four divides
it, unless a hundred does and four hundred does not.

* `ordinal y m d` counts the days up to a date; `ofOrdinal n` finds the date
  of an ordinal, through the cycles of 400, 100 and 4 years that the leap
  rule repeats in (146097, 36524 and 1461 days). `ofOrdinalChecked` takes the
  same steps with the checks the procedure asserts on its way.
* `weekday` numbers the days of the week from Monday (0) to Sunday (6);
  January 1 of year 1 was a Monday.
* `isoCalendar` gives the ISO year, week and weekday: the first week of a year
  is the one, Monday to Sunday, that holds the year's first Thursday.
* `normalizeDate` brings a day out of its month's range back into it, moving
  the month and the year.
-/

namespace Basis.Calendar

/-- Whether a year is a leap year. -/
def isLeap (y : Int) : Bool := y % 4 == 0 && (y % 100 != 0 || y % 400 == 0)

/-- The number of days before January 1 of a year. -/
def daysBeforeYear (y : Int) : Int :=
  let z := y - 1
  z * 365 + z.fdiv 4 - z.fdiv 100 + z.fdiv 400

/-- The lengths of the months of a common year. -/
def monthLengths : List Nat := [31, 28, 31, 30, 31, 30, 31, 31, 30, 31, 30, 31]

/-- The number of days of a month (1 to 12) of a year. -/
def daysInMonth (y : Int) (m : Nat) : Nat :=
  if m == 2 && isLeap y then 29 else monthLengths.getD (m - 1) 0

/-- The number of days of a year before the first of a month (1 to 12). -/
def daysBeforeMonth (y : Int) (m : Nat) : Nat :=
  (monthLengths.take (m - 1)).foldr (· + ·) 0 + (if m > 2 && isLeap y then 1 else 0)

/-- The ordinal of a date. -/
def ordinal (y : Int) (m d : Nat) : Int := daysBeforeYear y + daysBeforeMonth y m + d

/-- Days in 400 years. -/
def daysIn400Years : Int := 146097

/-- Days in 100 years that start a 400-year cycle. -/
def daysIn100Years : Int := 36524

/-- Days in 4 years that start a 100-year cycle. -/
def daysIn4Years : Int := 1461

/-- The month and day of the day `n` (from 0) of a year, `leap` telling
whether the year has a 29 February: the month is guessed from `n + 50`
divided by 32 and moved back one if it starts after the day. -/
def monthDayOf (leap : Bool) (n : Nat) : Nat × Nat :=
  let before := fun (m : Nat) => (monthLengths.take (m - 1)).foldr (· + ·) 0 + (if m > 2 && leap then 1 else 0)
  let guess := (n + 50) / 32
  let month := if before guess > n then guess - 1 else guess
  (month, n - before month + 1)

/-- The date of an ordinal: its year, month and day. -/
def ofOrdinal (n : Int) : Int × Nat × Nat :=
  let n := n - 1
  let n400 := n.fdiv daysIn400Years
  let n := n.fmod daysIn400Years
  let n100 := n.fdiv daysIn100Years
  let n := n.fmod daysIn100Years
  let n4 := n.fdiv daysIn4Years
  let n := n.fmod daysIn4Years
  let n1 := n.fdiv 365
  let n := (n.fmod 365).toNat
  let year := n400 * 400 + 1 + n100 * 100 + n4 * 4 + n1
  if n1 == 4 || n100 == 4 then (year - 1, 12, 31)
  else (year, monthDayOf (n1 == 3 && (n4 != 24 || n100 == 3)) n)

/-- The month and day of the day `n` (from 0) of a year, found the way the
procedure finds them: the month guessed from `n + 50` divided by 32, the days
before it counted with the leap flag `leap`, and when they pass the day the
guess moved back one and the days of that month taken off again. The day left
is checked to lie within the month, `dim` giving each month's length. -/
def monthDayChecked (leap : Bool) (dim : Nat → Nat) (n : Int) : Option (Nat × Nat) := do
  let month := ((n + 50) / 32).toNat
  let preceding : Int :=
    ((monthLengths.take (month - 1)).foldr (· + ·) 0 : Nat) + (if month > 2 && leap then 1 else 0)
  let (month, preceding) :=
    if preceding > n then
      (month - 1, preceding - ((monthLengths.getD (month - 2) 0 : Int) + (if month - 1 == 2 && leap then 1 else 0)))
    else (month, preceding)
  let n := n - preceding
  guard (1 ≤ month ∧ month ≤ 12 ∧ 0 ≤ n ∧ n < dim month)
  return (month, (n + 1).toNat)

/-- `ofOrdinal` step by step, with the checks the procedure asserts on its way:
a count that reaches a fifth year, or a fourth century, of a cycle leaves no
day over; the leap flag read from the cycles is the year's; the day found lies
within the month found. `none` when one of them fails. -/
def ofOrdinalChecked (n : Int) : Option (Int × Nat × Nat) := do
  let n := n - 1
  let n400 := n.fdiv daysIn400Years
  let n := n.fmod daysIn400Years
  let n100 := n.fdiv daysIn100Years
  let n := n.fmod daysIn100Years
  let n4 := n.fdiv daysIn4Years
  let n := n.fmod daysIn4Years
  let n1 := n.fdiv 365
  let n := n.fmod 365
  let year := n400 * 400 + 1 + n100 * 100 + n4 * 4 + n1
  if n1 == 4 || n100 == 4 then
    guard (n == 0)
    return (year - 1, 12, 31)
  let leap := n1 == 3 && (n4 != 24 || n100 == 3)
  guard (leap == isLeap year)
  let (month, day) ← monthDayChecked leap (daysInMonth year) n
  return (year, month, day)

/-- The day of the week of an ordinal, Monday being 0. -/
def weekdayOf (n : Int) : Nat := ((n + 6).fmod 7).toNat

/-- The ordinal of the Monday that starts the first ISO week of a year. -/
def isoWeekOneMonday (y : Int) : Int :=
  let first := ordinal y 1 1
  let firstWeekday := weekdayOf first
  let monday := first - firstWeekday
  if firstWeekday > 3 then monday + 7 else monday

/-- The ISO year, week (from 1) and weekday (Monday 1 to Sunday 7) of a date. -/
def isoCalendar (y : Int) (m d : Nat) : Int × Int × Int :=
  let today := ordinal y m d
  let monday := isoWeekOneMonday y
  let week := (today - monday).fdiv 7
  let day := (today - monday).fmod 7
  if week < 0 then
    let monday := isoWeekOneMonday (y - 1)
    (y - 1, (today - monday).fdiv 7 + 1, (today - monday).fmod 7 + 1)
  else if week ≥ 52 && today ≥ isoWeekOneMonday (y + 1) then (y + 1, 1, day + 1)
  else (y, week + 1, day + 1)

/-- A date whose day may lie outside its month (the month lies in 1 to 12),
brought back into the calendar. -/
def normalizeDate (y : Int) (m : Nat) (d : Int) : Int × Nat × Nat :=
  let dim := daysInMonth y m
  if 1 ≤ d && d ≤ dim then (y, m, d.toNat)
  else if d == 0 then
    if m > 1 then (y, m - 1, daysInMonth y (m - 1)) else (y - 1, 12, 31)
  else if d == dim + 1 then
    if m < 12 then (y, m + 1, 1) else (y + 1, 1, 1)
  else ofOrdinal (ordinal y m 1 + (d - 1))

/-- A month counted from any start brought into 1 to 12, the year moved to match. -/
def normalizeMonth (y m : Int) : Int × Nat :=
  if 1 ≤ m && m ≤ 12 then (y, m.toNat)
  else (y + (m - 1).fdiv 12, ((m - 1).fmod 12 + 1).toNat)

/-- Carries what lies outside `0 ≤ lo < factor` into `hi`. -/
def carry (hi lo : Int) (factor : Int) : Int × Int :=
  if 0 ≤ lo && lo ≤ factor - 1 then (hi, lo) else (hi + lo.fdiv factor, lo.fmod factor)

end Basis.Calendar
