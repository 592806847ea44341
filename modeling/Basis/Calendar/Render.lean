import Basis.Calendar.Object

/-!
# Writing the calendar's objects

* `Object.repr` writes an object as the call that makes it: durations as
  `datetime.timedelta(d, s, us)`, dates as `datetime.date(y, m, d)`, times of
  day and moments with trailing zero seconds and microseconds dropped and their
  zone appended as `tzinfo=…`; a fixed zone is `FixedTZ(label)`.
* `Object.str` writes it for reading: durations as `[D day[s], ]H:MM:SS[.f]`,
  dates, times and moments in ISO form, the moment's date and time joined by a
  blank. Times of day and moments carry their offset from universal time,
  `+HH:MM`, when their zone gives one; asking the zone may fail.
* `strftime` writes the fields of an object with a format: `%f` is the
  microsecond, `%z` the offset as `+HHMM` (empty without one), `%Z` the zone's
  name (its `%` doubled), and the rest is left to `TimeFields.format`. Years
  before 1900 are refused.
-/

namespace Basis.Calendar

/-- The representation of a zone. -/
def zoneRepr (id : Nat) : Calc String := do
  let z ← zoneAt id
  let label := z.label.getD "?"
  if z.answers then pure s!"FixedTZ({label})" else pure "<tzinfo object>"

/-- The zone part of a constructor call: `, tzinfo=…` or nothing. -/
def zoneSuffix : Option Nat → Calc String
  | none => pure ""
  | some id => do pure (", tzinfo=" ++ (← zoneRepr id))

/-- The fields of a moment that its constructor call shows. -/
def momentArgs (d : Date) (c : Clock) : String :=
  s!"{d.year}, {d.month}, {d.day}, " ++ c.reprArgs

namespace Object

mutual

/-- The representation of an object. -/
def repr : Object → Calc String
  | .plain v => pure v.repr
  | .seq tuple items => do
    let texts ← reprList items
    if !tuple then pure ("[" ++ ", ".intercalate texts ++ "]")
    else match texts with
      | [one] => pure ("(" ++ one ++ ",)")
      | _ => pure ("(" ++ ", ".intercalate texts ++ ")")
  | .delta t => pure t.repr
  | .date d => pure d.repr
  | .time c tz => do pure ("datetime.time(" ++ c.reprArgs ++ (← zoneSuffix tz) ++ ")")
  | .moment d c tz => do pure ("datetime.datetime(" ++ momentArgs d c ++ (← zoneSuffix tz) ++ ")")
  | .zone id => zoneRepr id
  | .kind name => pure s!"<class 'datetime.{name}'>"
  | .bound q self => do
    let inner ← repr self
    pure s!"<bound method {q} of {inner}>"
  | .notImplemented => pure "NotImplemented"

/-- The representations of a list of objects. -/
def reprList : List Object → Calc (List String)
  | [] => pure []
  | o :: rest => do
    let t ← repr o
    let ts ← reprList rest
    pure (t :: ts)

end

end Object

/-- An offset in minutes as `+HH<sep>MM`, or nothing without one. -/
def offsetText (sep : String) : Option Int → String
  | none => ""
  | some m =>
    let sign := if m < 0 then "-" else "+"
    let a := m.natAbs
    sign ++ zeroPadded 2 (a / 60 : Nat) ++ sep ++ zeroPadded 2 (a % 60 : Nat)

/-- A time of day in ISO form, with its zone's offset. -/
def timeIso (c : Clock) (zone : Option Nat) : Calc String := do
  pure (c.text ++ offsetText ":" (← zoneMinutes zone "utcoffset"))

/-- The separator of a moment's ISO form from an argument: one character, or
the code of one. -/
def separatorOf : Object → Except Failure String
  | .plain (.str s) =>
    if s.length == 1 then .ok s else .error (.typeError "%c requires int or char")
  | .plain (.int n) =>
    if 0 ≤ n && n < 0x110000 then .ok (String.singleton (Char.ofNat n.toNat))
    else .error (.overflowError "%c arg not in range(0x110000)")
  | .plain (.bool b) => .ok (String.singleton (Char.ofNat (if b then 1 else 0)))
  | _ => .error (.typeError "%c requires int or char")

/-- A moment in ISO form with a separator between its date and time. -/
def momentIso (d : Date) (c : Clock) (zone : Option Nat) (sep : String) : Calc String := do
  pure (d.isoText ++ sep ++ c.text ++ offsetText ":" (← zoneMinutes zone "utcoffset"))

/-- The text of an object for reading. -/
def Object.str : Object → Calc String
  | .plain (.str s) => pure s
  | .delta t => pure t.text
  | .date d => pure d.isoText
  | .time c tz => timeIso c tz
  | .moment d c tz => momentIso d c tz " "
  | o => o.repr

/-- The daylight-saving flag of a moment's fields: -1 without an adjustment,
1 for a nonzero one, 0 for zero. -/
def dstFlag (zone : Option Nat) : Calc Int := do
  match ← zoneMinutes zone "dst" with
  | none => pure (-1)
  | some m => pure (if m != 0 then 1 else 0)

/-- The broken-down fields of a date, a time of day or a moment. -/
def Object.timeFields : Object → Calc TimeFields
  | .date d => pure (d.fields 0 0 0 (-1))
  | .moment d c tz => do pure (d.fields c.hour c.minute c.second (← dstFlag tz))
  | .time c _ =>
    pure { year := 1900, month := 1, day := 1, hour := c.hour, minute := c.minute, second := c.second,
           weekday := 0, yearday := 1, dst := -1 }
  | _ => pure { year := 1900, month := 1, day := 1, hour := 0, minute := 0, second := 0,
                weekday := 0, yearday := 1, dst := -1 }

/-- The replacement of `%z`: the offset as `+HHMM`, empty for a date or without one. -/
def zoneOffsetText : Object → Calc String
  | .time _ zone | .moment _ _ zone => do pure (offsetText "" (← zoneMinutes zone "utcoffset"))
  | _ => pure ""

/-- The replacement of `%Z`: the zone's name with `%` doubled, empty for a date or without one. -/
def zoneNameText : Object → Calc String
  | .time _ zone | .moment _ _ zone => do
    match ← zoneLabel zone with
    | some s => pure (String.ofList (s.toList.flatMap fun c => if c == '%' then ['%', '%'] else [c]))
    | none => pure ""
  | _ => pure ""

/-- The microsecond that `%f` writes. -/
def Object.microsecond : Object → Int
  | .time c _ | .moment _ c _ => c.micro
  | _ => 0

/-- What the directive `%c` of a format becomes: the microsecond for `f`, the
offset for `z`, the zone's name for `Z`, and the directive itself for any other
character. -/
def directiveText (o : Object) : Char → Calc (List Char)
  | 'f' => pure (zeroPadded 6 o.microsecond).toList
  | 'z' => do pure (← zoneOffsetText o).toList
  | 'Z' => do pure (← zoneNameText o).toList
  | c => pure ['%', c]

/-- The format with `%f`, `%z` and `%Z` replaced for an object. It is read from
the left, a `%` and the character after it taken together, so the zone is
asked at the first directive that needs it; a `%` that ends the format stays. -/
def expandFormat (o : Object) : List Char → Calc (List Char)
  | [] => pure []
  | '%' :: c :: rest => do
    let text ← directiveText o c
    pure (text ++ (← expandFormat o rest))
  | c :: rest => do pure (c :: (← expandFormat o rest))

/-- The fields of an object written with a format given as an argument. -/
def strftime (o : Object) (fmt : Object) (t : TimeFields) : Calc String := do
  if t.year < 1900 then
    throw (.valueError s!"year={t.year} is before 1900; the datetime strftime() methods require year >= 1900")
  match fmt with
  | .plain (.str s) => pure (t.format (String.ofList (← expandFormat o s.toList)))
  | _ =>
    let zs ← read
    throw (.typeError s!"object of type '{fmt.typeName zs}' has no len()")

end Basis.Calendar
