import Basis.Calendar.Gregorian

/-!
# Broken-down times and their formats

`TimeFields` holds a time as the C library breaks it down: year, month, day,
hour, minute, second, the weekday (Monday 0), the day of the year (from 1) and
the daylight-saving flag (-1 unknown). `TimeFields.format` writes it with a
format string the way the C library's `strftime` does in the C locale:

* a conversion is `%`, flags (`_` pads with blanks, `-` does not pad, `0`
  pads with zeros, `^` writes capitals, `#` swaps the case of names), a width,
  an `E` or `O` modifier and a letter;
* numbers have a least number of digits (the width, if larger) and are padded
  with zeros, or blanks for `%e`, `%k` and `%l`;
* names are English; `%c`, `%x`, `%X`, `%D`, `%F`, `%r`, `%R` and `%T` stand
  for formats of other conversions;
* `%U` and `%W` count weeks from the first Sunday or Monday, `%V`, `%G` and
  `%g` are ISO weeks and years;
* an unknown conversion, or a `%` that ends the format, is copied as written.
-/

namespace Basis.Calendar

/-- A broken-down time. -/
structure TimeFields where
  /-- The year. -/
  year : Int
  /-- The month, from 1. -/
  month : Int
  /-- The day of the month. -/
  day : Int
  /-- The hour. -/
  hour : Int
  /-- The minute. -/
  minute : Int
  /-- The second. -/
  second : Int
  /-- The day of the week, Monday being 0. -/
  weekday : Int
  /-- The day of the year, from 1. -/
  yearday : Int
  /-- Whether daylight saving is in effect: 1, 0, or -1 when unknown. -/
  dst : Int
  deriving Inhabited, Repr

namespace TimeFields

/-- The full names of the days of the week, from Sunday. -/
def dayNames : List String := ["Sunday", "Monday", "Tuesday", "Wednesday", "Thursday", "Friday", "Saturday"]

/-- The full names of the months. -/
def monthNames : List String :=
  ["January", "February", "March", "April", "May", "June", "July", "August", "September", "October",
    "November", "December"]

/-- How a conversion is written: its flags, width and modifier. -/
structure Spec where
  /-- The padding flag: `_`, `-`, `0`, or none. -/
  pad : Option Char := none
  /-- Whether names are written in capitals. -/
  upper : Bool := false
  /-- Whether the case of names is swapped. -/
  swapCase : Bool := false
  /-- The least width, if given. -/
  width : Option Nat := none
  /-- The modifier, `E` or `O`, if given. -/
  modifier : Option Char := none

/-- Pads a text on the left to the spec's width: with zeros for the `0` flag,
not at all for `-`, else with blanks. -/
def padText (sp : Spec) (s : List Char) : List Char :=
  let w := sp.width.getD 0
  if s.length ≥ w then s
  else if sp.pad == some '0' then List.replicate (w - s.length) '0' ++ s
  else if sp.pad == some '-' then s
  else List.replicate (w - s.length) ' ' ++ s

/-- Writes a name, in capitals when asked. -/
def name (sp : Spec) (s : String) (swapToUpper : Bool) : List Char :=
  let upper := sp.upper || (sp.swapCase && swapToUpper)
  let lower := sp.swapCase && !swapToUpper
  let cs := s.toList.map fun c => if upper then c.toUpper else if lower then c.toLower else c
  padText sp cs

/-- Writes a number with at least `digits` digits (or the width), padded with
zeros, or with blanks when `blanks` (and the flags do not say otherwise). -/
def number (sp : Spec) (digits : Nat) (v : Int) (blanks : Bool) : List Char :=
  let pad := if blanks && sp.pad != some '0' && sp.pad != some '-' then some '_' else sp.pad
  let digits := max digits (sp.width.getD 0)
  let body := (toString v.natAbs).toList
  let signed := if v < 0 then '-' :: body else body
  let padding := digits - signed.length
  if pad == some '-' || padding == 0 then signed
  else if pad == some '_' then List.replicate padding ' ' ++ signed
  else if v < 0 then '-' :: List.replicate padding '0' ++ body
  else List.replicate padding '0' ++ body

/-- The ISO days of a year day and week day (Sunday 0): the day of the ISO year
counted from its first Monday, negative before it. -/
def isoWeekDays (yday wday : Int) : Int :=
  yday - (yday - wday + 4 + 378).fmod 7 + 4 - 1

/-- The ISO year and the days into it of the fields. -/
def isoYearDays (t : TimeFields) : Int × Int :=
  let yday := t.yearday - 1
  let wday := (t.weekday + 1).fmod 7
  let days := isoWeekDays yday wday
  if days < 0 then
    let y := t.year - 1
    (y, isoWeekDays (yday + (365 + if isLeap y then 1 else 0)) wday)
  else
    let d := isoWeekDays (yday - (365 + if isLeap t.year then 1 else 0)) wday
    if 0 ≤ d then (t.year + 1, d) else (t.year, days)

/-- The seconds since the epoch of the fields read as universal time. -/
def epochSeconds (t : TimeFields) : Int :=
  let (y, m) := normalizeMonth t.year t.month
  (ordinal y m 1 + t.day - 1 - 719163) * 86400 + t.hour * 3600 + t.minute * 60 + t.second

/-- The conversions that stand for formats of others. -/
def shorthand? : Char → Option String
  | 'c' => some "%a %b %e %H:%M:%S %Y"
  | 'x' | 'D' => some "%m/%d/%y"
  | 'X' | 'T' => some "%H:%M:%S"
  | 'F' => some "%Y-%m-%d"
  | 'R' => some "%H:%M"
  | 'r' => some "%I:%M:%S %p"
  | _ => none

/-- Writes one conversion letter, or `none` when the letter is unknown (or the
modifier does not fit it); `sub` writes a format of other conversions. -/
def conversion (t : TimeFields) (sp : Spec) (letter : Char) (sub : String → List Char) : Option (List Char) :=
  let wday := (t.weekday + 1).fmod 7
  let yday := t.yearday - 1
  let hour12 := if t.hour.fmod 12 == 0 then 12 else t.hour.fmod 12
  match letter with
  | 'a' => if sp.modifier.isSome then none else some (name sp ((dayNames.getD wday.toNat "?").take 3).toString true)
  | 'A' => if sp.modifier.isSome then none else some (name sp (dayNames.getD wday.toNat "?") true)
  | 'b' | 'h' =>
    if sp.modifier == some 'E' then none
    else some (name sp ((monthNames.getD (t.month - 1).toNat "?").take 3).toString true)
  | 'B' => if sp.modifier == some 'E' then none else some (name sp (monthNames.getD (t.month - 1).toNat "?") true)
  | 'C' =>
    if sp.modifier == some 'O' then none
    else some (number sp 2 (t.year.fdiv 100) false)
  | 'd' => if sp.modifier == some 'E' then none else some (number sp 2 t.day false)
  | 'e' => if sp.modifier == some 'E' then none else some (number sp 2 t.day true)
  | 'H' => if sp.modifier == some 'E' then none else some (number sp 2 t.hour false)
  | 'I' => if sp.modifier == some 'E' then none else some (number sp 2 hour12 false)
  | 'k' => if sp.modifier == some 'E' then none else some (number sp 2 t.hour true)
  | 'l' => if sp.modifier == some 'E' then none else some (number sp 2 hour12 true)
  | 'j' => if sp.modifier == some 'E' then none else some (number sp 3 (yday + 1) false)
  | 'M' => if sp.modifier == some 'E' then none else some (number sp 2 t.minute false)
  | 'm' => if sp.modifier == some 'E' then none else some (number sp 2 t.month false)
  | 'n' => some (padText sp ['\n'])
  | 't' => some (padText sp ['\t'])
  | 'p' => some (name sp (if t.hour ≥ 12 then "PM" else "AM") false)
  | 'P' => some (name { sp with upper := false, swapCase := true } (if t.hour ≥ 12 then "PM" else "AM") false)
  | 'S' => if sp.modifier == some 'E' then none else some (number sp 2 t.second false)
  | 's' => some (number sp 1 t.epochSeconds false)
  | 'u' => if sp.modifier == some 'E' then none else some (number sp 1 ((wday - 1 + 7).fmod 7 + 1) false)
  | 'U' => if sp.modifier == some 'E' then none else some (number sp 2 ((yday - wday + 7).fdiv 7) false)
  | 'W' =>
    if sp.modifier == some 'E' then none
    else some (number sp 2 ((yday - (wday - 1 + 7).fmod 7 + 7).fdiv 7) false)
  | 'w' => if sp.modifier == some 'E' then none else some (number sp 1 wday false)
  | 'V' | 'g' | 'G' =>
    if sp.modifier == some 'E' then none
    else
      let (y, days) := t.isoYearDays
      match letter with
      | 'g' => some (number sp 2 ((y.fmod 100 + 100).fmod 100) false)
      | 'G' => some (number sp 1 y false)
      | _ => some (number sp 2 (days.fdiv 7 + 1) false)
  | 'Y' => if sp.modifier == some 'O' then none else some (number sp 1 t.year false)
  | 'y' => some (number sp 2 ((t.year.fmod 100 + 100).fmod 100) false)
  | 'Z' =>
    let zone := if t.dst ≥ 0 then "UTC" else ""
    some (name { sp with upper := sp.upper, swapCase := false } (if sp.swapCase then zone.toLower else zone) false)
  | 'z' =>
    if t.dst < 0 then some []
    else some ('+' :: number { sp with width := (sp.width.map (· - 1)) } 4 0 false)
  | '%' => if sp.modifier.isSome then none else some (padText sp ['%'])
  | c =>
    match shorthand? c with
    | some f =>
      if (c == 'c' || c == 'x' || c == 'X') && sp.modifier == some 'O' then none
      else if c != 'c' && c != 'x' && c != 'X' && sp.modifier.isSome then none
      else
        let body := sub f
        some (padText sp (if sp.upper then body.map Char.toUpper else body))
    | none => none

/-- Reads the flags, width and modifier after a `%`. -/
def readSpec (cs : List Char) : Spec × List Char :=
  let flags := cs.takeWhile fun c => c == '_' || c == '-' || c == '0' || c == '^' || c == '#'
  let rest := cs.drop flags.length
  let pad := flags.foldl (fun p c => if c == '_' || c == '-' || c == '0' then some c else p) none
  let digits := rest.takeWhile Char.isDigit
  let rest := rest.drop digits.length
  let width := if digits.isEmpty then none else some (digits.foldl (fun n d => n * 10 + (d.toNat - 48)) 0)
  let (modifier, rest) := match rest with
    | 'E' :: r => (some 'E', r)
    | 'O' :: r => (some 'O', r)
    | r => (none, r)
  ({ pad, upper := flags.contains '^', swapCase := flags.contains '#', width, modifier }, rest)

/-- Writes the fields with a format, `fuel` bounding the characters read; `sub`
writes the formats that conversions stand for, if they are allowed. -/
def formatWith (t : TimeFields) (sub : Option (String → List Char)) : Nat → List Char → List Char
  | 0, _ => []
  | _, [] => []
  | fuel + 1, '%' :: rest =>
    let (sp, after) := readSpec rest
    match after with
    | [] => '%' :: rest
    | letter :: more =>
      let out := match sub with
        | some s => t.conversion sp letter s
        | none => if (shorthand? letter).isSome then none else t.conversion sp letter (fun _ => [])
      match out with
      | some out => out ++ formatWith t sub fuel more
      | none => '%' :: rest.take (rest.length - more.length) ++ formatWith t sub fuel more
  | fuel + 1, c :: rest => c :: formatWith t sub fuel rest

/-- The fields written with a format, as `strftime` writes them. -/
def format (t : TimeFields) (fmt : String) : String :=
  let plain := fun (f : String) => t.formatWith none (f.length + 1) f.toList
  String.ofList (t.formatWith (some plain) (fmt.length + 1) fmt.toList)

end TimeFields

end Basis.Calendar
