import Basis.Failure
import Basis.Value.Repr
import Basis.Pattern.Match
import Basis.Calendar.Date

/-!
# Reading dates and times with a format

`checkParse text format` decides whether `text` reads with `format` the way
the C-locale parser of formatted times reads it, and fails as it does:

* A format is literal characters, runs of blanks (which read one blank or
  more) and directives: `%` and a letter. Each directive reads by a fixed
  pattern, ignoring case: numbers of their own ranges (`%d` 1..31, `%H`
  0..23, …), English day and month names (longest first), `am`/`pm`, the zone
  names `utc`/`gmt`, offsets `±HH[:]MM[[:]SS[.f]]` or `Z` for `%z`; `%c`,
  `%x` and `%X` stand for `%a %b %d %H:%M:%S %Y`, `%m/%d/%y` and `%H:%M:%S`.
* A `%` that ends the format is stray; one before a character that is not a
  directive is a bad directive (`%` itself when the character is a blank or
  has a meaning in patterns); a directive used twice redefines its group.
* The text must match from its start; text left over is reported.
* What was read must make a date: a day within its month, a year of 1..9999,
  ISO weeks only with an ISO year and a weekday, and days of the year or
  weeks that land within the calendar.
-/

namespace Basis.Calendar

open Basis.Pattern

/-- A piece of a format. -/
inductive Piece where
  /-- A literal character. -/
  | text (c : Char)
  /-- A run of blanks. -/
  | blanks
  /-- A directive, by its letter. -/
  | directive (c : Char)
  deriving DecidableEq, Inhabited

/-- The characters that patterns give a meaning to. -/
def patternSpecials : List Char := "\\.^$*+?()\x7b\x7d[]|".toList

/-- The directive letters. -/
def directiveLetters : List Char :=
  ['d', 'f', 'H', 'I', 'G', 'j', 'm', 'M', 'S', 'U', 'W', 'w', 'u', 'V', 'y', 'Y', 'z', 'A', 'a', 'B', 'b',
    'p', 'Z', '%', 'c', 'x', 'X']

/-- The failure of a bad directive in a format. -/
def badDirective (c : Char) (fmt : String) : Failure :=
  .valueError s!"'{c}' is a bad directive in format '{fmt}'"

/-- Splits a format into pieces, failing at a stray `%` or a bad directive. -/
def piecesOf (fmt : String) : List Char → Except Failure (List Piece)
  | [] => .ok []
  | '%' :: rest =>
    match rest with
    | [] => .error (.valueError s!"stray % in format '{fmt}'")
    | c :: more =>
      if Text.isBlank c || patternSpecials.contains c then .error (badDirective '%' fmt)
      else if directiveLetters.contains c then do
        return .directive c :: (← piecesOf fmt more)
      else .error (badDirective c fmt)
  | c :: rest =>
    if Text.isBlank c then do
      return .blanks :: (← piecesOf fmt (rest.drop (rest.takeWhile Text.isBlank).length))
    else do
      return .text c :: (← piecesOf fmt rest)
termination_by cs => cs.length
decreasing_by
  all_goals simp only [List.length_cons, List.length_drop]
  all_goals omega

/-- The pieces that `%c`, `%x` and `%X` stand for. -/
def expansion? : Char → Option (List Piece)
  | 'c' => some [.directive 'a', .blanks, .directive 'b', .blanks, .directive 'd', .blanks, .directive 'H',
      .text ':', .directive 'M', .text ':', .directive 'S', .blanks, .directive 'Y']
  | 'x' => some [.directive 'm', .text '/', .directive 'd', .text '/', .directive 'y']
  | 'X' => some [.directive 'H', .text ':', .directive 'M', .text ':', .directive 'S']
  | _ => none

/-- The full names of the days, longest first. -/
def dayNamesByLength : List String := ["wednesday", "thursday", "saturday", "tuesday", "monday", "friday", "sunday"]

/-- The short names of the days. -/
def dayShortNames : List String := ["mon", "tue", "wed", "thu", "fri", "sat", "sun"]

/-- The full names of the months, longest first. -/
def monthNamesByLength : List String :=
  ["september", "february", "november", "december", "january", "october", "august", "march", "april", "june",
    "july", "may"]

/-- The short names of the months. -/
def monthShortNames : List String :=
  ["jan", "feb", "mar", "apr", "may", "jun", "jul", "aug", "sep", "oct", "nov", "dec"]

/-- The full names of the months in calendar order. -/
def monthNamesInOrder : List String :=
  ["january", "february", "march", "april", "may", "june", "july", "august", "september", "october",
    "november", "december"]

/-- The full names of the days from Monday. -/
def dayNamesInOrder : List String := ["monday", "tuesday", "wednesday", "thursday", "friday", "saturday", "sunday"]

/-- One character, either case. -/
def anyCase (c : Char) : Pattern := .char fun x => x.toLower == c.toLower

/-- A word, either case. -/
def anyCaseWord (s : String) : Pattern := seqs (s.toList.map anyCase)

/-- A decimal digit of any script. -/
def digit : Pattern := digitClass

/-- The patterns and the texts of alternatives, the text as the pattern
source writes them. -/
def choices (words : List String) : Pattern × String :=
  (alts (words.map anyCaseWord), "|".intercalate words)

/-- The pattern of a directive, and the length of its source in pattern
notation (without the group around it) and the groups inside it. -/
def directiveBody : Char → Pattern × Nat × Nat
  | 'd' => (alts [seqs [lit '3', range '0' '1'], seqs [range '1' '2', digit], seqs [lit '0', range '1' '9'],
      range '1' '9', seqs [lit ' ', range '1' '9']], 35, 0)
  | 'f' => (seqs [asciiDigit, opt (seqs [asciiDigit, opt (seqs [asciiDigit, opt (seqs [asciiDigit,
      opt (seqs [asciiDigit, opt asciiDigit])])])])], 10, 0)
  | 'H' => (alts [seqs [lit '2', range '0' '3'], seqs [range '0' '1', digit], digit], 19, 0)
  | 'I' | 'm' => (alts [seqs [lit '1', range '0' '2'], seqs [lit '0', range '1' '9'], range '1' '9'], 20, 0)
  | 'G' | 'Y' => (seqs [digit, digit, digit, digit], 8, 0)
  | 'j' => (alts [seqs [lit '3', lit '6', range '0' '6'], seqs [lit '3', range '0' '5', digit],
      seqs [range '1' '2', digit, digit], seqs [lit '0', range '1' '9', digit],
      seqs [lit '0', lit '0', range '1' '9'], seqs [range '1' '9', digit], seqs [lit '0', range '1' '9'],
      range '1' '9'], 67, 0)
  | 'M' => (alts [seqs [range '0' '5', digit], digit], 10, 0)
  | 'S' => (alts [seqs [lit '6', range '0' '1'], seqs [range '0' '5', digit], digit], 19, 0)
  | 'U' | 'W' => (alts [seqs [lit '5', range '0' '3'], seqs [range '0' '4', digit], digit], 19, 0)
  | 'w' => (range '0' '6', 5, 0)
  | 'u' => (range '1' '7', 5, 0)
  | 'V' => (alts [seqs [lit '5', range '0' '3'], seqs [lit '0', range '1' '9'], seqs [range '1' '4', digit],
      digit], 26, 0)
  | 'y' => (seqs [digit, digit], 4, 0)
  | 'z' =>
    let frac := opt (seqs [lit '.', digit, opt (seqs [digit, opt (seqs [digit, opt (seqs [digit,
      opt (seqs [digit, opt digit])])])])])
    (alts [seqs [oneOf "+-", digit, digit, opt (lit ':'), range '0' '5', digit,
      opt (seqs [opt (lit ':'), range '0' '5', digit, frac])], lit 'Z'], 49, 2)
  | 'A' => let (p, s) := choices dayNamesByLength; (p, s.length, 0)
  | 'a' => let (p, s) := choices dayShortNames; (p, s.length, 0)
  | 'B' => let (p, s) := choices monthNamesByLength; (p, s.length, 0)
  | 'b' => let (p, s) := choices monthShortNames; (p, s.length, 0)
  | 'p' => let (p, s) := choices ["am", "pm"]; (p, s.length, 0)
  | 'Z' => let (p, s) := choices ["utc", "gmt"]; (p, s.length, 0)
  | _ => (lit '%', 1, 0)

/-- A format compiled: its pattern, the directive of each group, the groups
opened so far and the length of its source in pattern notation. -/
structure Compiled where
  /-- The pieces' patterns, in order. -/
  parts : List Pattern := []
  /-- The group of each directive, with the position of its name in the source. -/
  groups : List (Char × Nat × Nat) := []
  /-- The groups opened so far. -/
  count : Nat := 0
  /-- The length of the source so far. -/
  length : Nat := 0
  /-- The first directive named twice: its letter, its group, its earlier group
  and the position of its name. -/
  clash : Option (Char × Nat × Nat × Nat) := none

/-- Adds a directive's group to a compiled format. -/
def Compiled.addDirective (k : Compiled) (c : Char) : Compiled :=
  if c == '%' then { k with parts := k.parts ++ [lit '%'], length := k.length + 1 }
  else
    let (body, size, inner) := directiveBody c
    let index := k.count + 1
    let namePos := k.length + 4
    let clash := match k.clash, k.groups.find? (·.1 == c) with
      | none, some (_, earlier, _) => some (c, index, earlier, namePos)
      | old, _ => old
    { parts := k.parts ++ [.group index body], groups := k.groups ++ [(c, index, namePos)],
      count := index + inner, length := k.length + 7 + size, clash }

/-- Adds one piece to a compiled format, a directive as its own group. -/
def Compiled.addPiece (k : Compiled) : Piece → Compiled
  | .text c =>
    let size := if patternSpecials.contains c then 2 else 1
    { k with parts := k.parts ++ [anyCase c], length := k.length + size }
  | .blanks => { k with parts := k.parts ++ [many1 blankClass], length := k.length + 3 }
  | .directive c => k.addDirective c

/-- Adds pieces to a compiled format, `%c`, `%x` and `%X` by what they stand for. -/
def Compiled.addPieces (k : Compiled) (pieces : List Piece) : Compiled :=
  pieces.foldl (fun k p =>
    match p with
    | .directive c =>
      match expansion? c with
      | some sub => sub.foldl Compiled.addPiece k
      | none => k.addPiece p
    | _ => k.addPiece p) k

/-- The integer that a run of decimal digits of any script reads as. -/
def digitsValue (s : String) : Int := s.toList.foldl (fun n c => n * 10 + Text.decimalValue c) 0

/-- The failure of a year out of range when making a date. -/
def yearRange (y : Int) : Failure := .valueError s!"year {y} is out of range"

/-- Checks that fields make a date. -/
def checkDate (y m d : Int) : Except Failure Unit := do
  unless 1 ≤ y && y ≤ 9999 do throw (yearRange y)
  unless 1 ≤ m && m ≤ 12 do throw (.valueError "month must be in 1..12")
  unless 1 ≤ d && d ≤ daysInMonth y m.toNat do throw (.valueError "day is out of range for month")

/-- The date of an ordinal, failing outside the calendar. -/
def dateOfOrdinal (n : Int) : Except Failure Date := do
  unless 1 ≤ n do throw (.valueError "ordinal must be >= 1")
  let d := Date.ofOrdinal n
  unless d.year ≤ 9999 do throw (yearRange d.year)
  return d

/-- What a matched text says: the values of the directives found. -/
structure Reading where
  /-- The year, if given. -/
  year : Option Int := none
  /-- The ISO year, if given. -/
  isoYear : Option Int := none
  /-- The month. -/
  month : Int := 1
  /-- The day. -/
  day : Int := 1
  /-- The weekday, Monday 0, if given. -/
  weekday : Option Int := none
  /-- The day of the year, if given. -/
  julian : Option Int := none
  /-- The week of the year and whether weeks start on Monday, if given. -/
  week : Option (Int × Bool) := none
  /-- The ISO week, if given. -/
  isoWeek : Option Int := none

/-- The index of a name in a list. -/
def indexIn (names : List String) (s : String) : Int := (names.idxOf s.toLower : Nat)

/-- Adds the value of one directive to a reading. -/
def Reading.add (r : Reading) (c : Char) (s : String) : Except Failure Reading := do
  match c with
  | 'y' => let y := digitsValue s; return { r with year := some (if y ≤ 68 then y + 2000 else y + 1900) }
  | 'Y' => return { r with year := some (digitsValue s) }
  | 'G' => return { r with isoYear := some (digitsValue s) }
  | 'm' => return { r with month := digitsValue s }
  | 'B' => return { r with month := indexIn monthNamesInOrder s + 1 }
  | 'b' => return { r with month := indexIn monthShortNames s + 1 }
  | 'd' => return { r with day := digitsValue (String.ofList (s.toList.filter (· != ' '))) }
  | 'A' => return { r with weekday := some (indexIn dayNamesInOrder s) }
  | 'a' => return { r with weekday := some (indexIn dayShortNames s) }
  | 'w' => let w := digitsValue s; return { r with weekday := some (if w == 0 then 6 else w - 1) }
  | 'u' => return { r with weekday := some (digitsValue s - 1) }
  | 'j' => return { r with julian := some (digitsValue s) }
  | 'U' => return { r with week := some (digitsValue s, false) }
  | 'W' => return { r with week := some (digitsValue s, true) }
  | 'V' => return { r with isoWeek := some (digitsValue s) }
  | 'z' =>
    let cs := s.toList
    if cs.length > 3 && cs[3]? == some ':' then
      let rest := cs.take 3 ++ cs.drop 4
      if rest.length > 5 && rest[5]? != some ':' then
        throw (.valueError s!"Inconsistent use of : in {s}")
    return r
  | _ => return r

/-- The day of the year that a week of the year and a weekday give. -/
def julianOfWeek (year week weekday : Int) (mondayFirst : Bool) : Except Failure Int := do
  checkDate year 1 1
  let first := (weekdayOf (ordinal year 1 1) : Int)
  let (first, weekday) := if mondayFirst then (first, weekday) else ((first + 1) % 7, (weekday + 1) % 7)
  let week0 := (7 - first) % 7
  if week == 0 then return 1 + weekday - first
  return 1 + week0 + 7 * (week - 1) + weekday

/-- The year and day of the year that an ISO year, week and weekday give. -/
def julianOfIsoWeek (isoYear isoWeek isoWeekday : Int) : Except Failure (Int × Int) := do
  checkDate isoYear 1 4
  let correction := (weekdayOf (ordinal isoYear 1 4) : Int) + 1 + 3
  let n := isoWeek * 7 + isoWeekday - correction
  if n < 1 then
    checkDate (isoYear - 1) 1 1
    return (isoYear - 1, n + ordinal isoYear 1 1 - ordinal (isoYear - 1) 1 1)
  return (isoYear, n)

/-- Checks that a reading makes a date. -/
def Reading.check (r : Reading) : Except Failure Unit := do
  if r.isoYear.isSome then
    if r.julian.isSome then
      throw (.valueError ("Day of the year directive '%j' is not compatible with ISO year directive '%G'. " ++
        "Use '%Y' instead."))
    if r.isoWeek.isNone || r.weekday.isNone then
      throw (.valueError ("ISO year directive '%G' must be used with the ISO week directive '%V' and a " ++
        "weekday directive ('%A', '%a', '%w', or '%u')."))
  else if r.isoWeek.isSome then
    if r.year.isNone || r.weekday.isNone then
      throw (.valueError ("ISO week directive '%V' must be used with the ISO year directive '%G' and a " ++
        "weekday directive ('%A', '%a', '%w', or '%u')."))
    throw (.valueError ("ISO week directive '%V' is incompatible with the year directive '%Y'. " ++
      "Use the ISO year '%G' instead."))
  let year := r.year.getD (if r.month == 2 && r.day == 29 then 1904 else 1900)
  let (year, julian) ← match r.julian, r.weekday with
    | none, some wd =>
      let computed ← match r.week, r.isoYear, r.isoWeek with
        | some (w, mon), _, _ => do pure (year, some (← julianOfWeek year w wd mon))
        | none, some iy, some iw => do
          let (y, j) ← julianOfIsoWeek iy iw (wd + 1)
          pure (y, some j)
        | _, _, _ => pure (year, none)
      match computed with
      | (y, some j) =>
        if j ≤ 0 then pure (y - 1, some (j + (if isLeap (y - 1) then 366 else 365)))
        else pure (y, some j)
      | other => pure other
    | j, _ => pure (year, j)
  match julian with
  | none => checkDate year r.month r.day; checkDate year 1 1
  | some j =>
    checkDate year 1 1
    let _ ← dateOfOrdinal (j - 1 + ordinal year 1 1)

/-- Decides whether a text reads with a format, failing as the reader does. -/
def checkParse (text fmt : String) : Except Failure Unit := do
  let pieces ← piecesOf fmt fmt.toList
  let k := ({} : Compiled).addPieces pieces
  if let some (c, index, earlier, pos) := k.clash then
    throw ⟨"error", s!"redefinition of group name '{c}' as group {index}; was group {earlier} at position {pos}"⟩
  let input := text.toList.toArray
  let some m := matchAt (seqs k.parts) input 0
    | throw (.valueError s!"time data {Value.strRepr text} does not match format {Value.strRepr fmt}")
  if m.stop != input.size then
    throw (.valueError s!"unconverted data remains: {String.ofList (input.extract m.stop input.size).toList}")
  let reading ← k.groups.foldlM (fun (r : Reading) (c, index, _) =>
    match m.group? input index with
    | some s => r.add c s
    | none => pure r) {}
  reading.check

end Basis.Calendar
