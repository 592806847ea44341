import Basis.Calendar.Moment
import Basis.Calendar.Scan
import Basis.Value.Signature

/-!
# Methods of the calendar's objects

A name on an object leads to a value (a field, or a class attribute such as
`min`), to a method of a class, or nowhere (`Slot`). Methods are named by the
class that defines them and their own name, which is what failures print:
`__str__` of a date is `date.isoformat`, `__rmul__` of a duration is
`timedelta.__mul__`, and moments take the date methods they do not redefine.

Binary operations answer `notImplemented` for operands they do not handle;
equality with an object of another kind is false and ordering against it
fails. Classes are called through `construct`, and their class methods
through `callClass`.
-/

namespace Basis.Calendar

/-- Where a name leads on an object. -/
inductive Slot where
  /-- A value: a field or a class attribute. -/
  | value (o : Object)
  /-- A method, by the class that defines it and its own name. -/
  | method (owner name : String)
  /-- Nothing. -/
  | missing

/-- Binds a call's arguments to a method's parameters after its receiver. -/
def bindParams (qualname : String) (params : List String) (defaults : Nat) (recv : Object)
    (args : List Object) (kwargs : List (String × Object)) : Except Failure (List (Option Object)) := do
  let b ← Signature.bind { name := qualname, params := "self" :: params, defaults } (recv :: args) kwargs
  return b.positional.drop 1

/-- Checks that a method of no parameters was called with no arguments. -/
def noParams (qualname : String) (recv : Object) (args : List Object) (kwargs : List (String × Object)) :
    Except Failure Unit := do
  let _ ← bindParams qualname [] 0 recv args kwargs

/-- The one argument of a method of one parameter. -/
def oneParam (qualname param : String) (recv : Object) (args : List Object)
    (kwargs : List (String × Object)) : Except Failure Object := do
  match ← bindParams qualname [param] 0 recv args kwargs with
  | [some o] => pure o
  | _ => throw (.typeError s!"{qualname}() missing 1 required positional argument: '{param}'")

/-- Checks the arguments of a built-in wrapper that takes `n` of them. -/
def wrapperArgs (name : String) (n : Nat) (args : List Object) (kwargs : List (String × Object)) :
    Except Failure Unit := do
  unless kwargs.isEmpty do throw (.typeError s!"wrapper {name}() takes no keyword arguments")
  unless args.length == n do
    let plural := if n == 1 then "" else "s"
    throw (.typeError s!"expected {n} argument{plural}, got {args.length}")

/-- The argument of a method given as `None` replaced by a default. -/
def orElse (o : Option Object) (default : Object) : Object :=
  match o with
  | some (.plain .none) | none => default
  | some o => o

/-- The zone argument of `replace`: `True` (the default) keeps the zone. -/
def keepZone (o : Option Object) (zone : Option Nat) : Object :=
  match o with
  | some (.plain (.bool true)) | none => Object.ofZone zone
  | some o => o

/-- The answer of a comparison of two objects that compare, by their order. -/
def comparisonAnswer (name : String) (ord : Ordering) : Object :=
  Object.ofBool <| match name with
    | "__eq__" => ord == .eq
    | "__ne__" => ord != .eq
    | "__lt__" => ord == .lt
    | "__le__" => ord != .gt
    | "__gt__" => ord == .gt
    | _ => ord != .lt

/-- The answer of a comparison with an object of another kind: unequal, and
not ordered. -/
def mismatchAnswer (name : String) (self other : Object) : Calc Object := do
  match name with
  | "__eq__" => pure (Object.ofBool false)
  | "__ne__" => pure (Object.ofBool true)
  | _ => throw (cannotCompare (← read) self other)

/-- Whether a name is one of the six comparisons. -/
def isComparison (name : String) : Bool :=
  ["__eq__", "__ne__", "__lt__", "__le__", "__gt__", "__ge__"].contains name

/-- The failure of a pickle given as the first field, whose bytes do not read
as characters: `isPickle` says by its number of bytes whether it is read as one. -/
def refusePickle (first : Object) (isPickle : Nat → Bool) : Except Failure Unit :=
  match first with
  | .plain (.bytes b) =>
    if isPickle b.size then throw (.typeError "ord() expected string of length 1, but int found")
    else pure ()
  | _ => pure ()

/-- A date of fields given as arguments, or the failure of a four-byte
pickle, whose bytes do not read as characters. -/
def newDate (y m d : Object) : Except Failure Object := do
  refusePickle y fun n => m.isNone && n == 4
  let y ← y.intField
  let m ← m.intField
  let d ← d.intField
  return .date (← Date.ofInts y m d)

/-- A time of day of fields given as arguments. -/
def newTime (h m s us tz : Object) : Except Failure Object := do
  refusePickle h (· == 6)
  let h ← h.intField
  let m ← m.intField
  let s ← s.intField
  let us ← us.intField
  let c ← Clock.ofInts h m s us
  return .time c (← tz.zoneArg)

/-- A moment of fields given as arguments. -/
def newMoment (y m d hh mm ss us tz : Object) : Except Failure Object := do
  refusePickle y (· == 10)
  let y ← y.intField
  let m ← m.intField
  let d ← d.intField
  let date ← Date.ofInts y m d
  let hh ← hh.intField
  let mm ← mm.intField
  let ss ← ss.intField
  let us ← us.intField
  let c ← Clock.ofInts hh mm ss us
  return .moment date c (← tz.zoneArg)

/-- An object of a class (`date` or `datetime`) made from a date's fields. -/
def ofDateFields (cls : String) (y m d : Int) : Except Failure Object := do
  let date ← Date.ofInts y m d
  if cls == "datetime" then return .moment date Clock.midnight none
  return .date date

/-- The date of an ordinal given as an argument, before it is checked. -/
def ordinalFields (zs : Zones) : Object → Except Failure (Int × Int × Int)
  | .plain (.int n) => let (y, m, d) := Calendar.ofOrdinal n; .ok (y, m, d)
  | .plain (.bool b) => let (y, m, d) := Calendar.ofOrdinal (if b then 1 else 0); .ok (y, m, d)
  | .plain (.float x) =>
    let floatYear := Failure.typeError "integer argument expected, got float"
    let noShift := Failure.typeError "unsupported operand type(s) for >>: 'float' and 'int'"
    match Duration.truncate (x - 1.0).floor with
    | .ok m =>
      let n := m.fmod 146097
      let n100 := n / 36524
      let n1 := n % 36524 % 1461 / 365
      .error (if n1 == 4 || n100 == 4 then floatYear else noShift)
    | .error _ => .error noShift
  | o => .error (.typeError s!"unsupported operand type(s) for -=: '{o.typeName zs}' and 'int'")

/-- The class attributes shared by instances: the least and greatest values and
the resolution. -/
def classAttribute? (cls name : String) : Option Object :=
  let micro : Object := .delta ⟨0, 0, 1⟩
  match cls, name with
  | "timedelta", "min" => some (.delta Duration.least)
  | "timedelta", "max" => some (.delta Duration.greatest)
  | "timedelta", "resolution" => some micro
  | "date", "min" => some (.date Date.first)
  | "date", "max" => some (.date Date.last)
  | "date", "resolution" => some (.delta ⟨1, 0, 0⟩)
  | "time", "min" => some (.time Clock.midnight none)
  | "time", "max" => some (.time Clock.last none)
  | "time", "resolution" => some micro
  | "datetime", "min" => some (.moment Date.first Clock.midnight none)
  | "datetime", "max" => some (.moment Date.last Clock.last none)
  | "datetime", "resolution" => some micro
  | _, _ => none

/-- The methods of durations, with the name of the function each one is. -/
def durationMethods : List (String × String × String) :=
  (["__repr__", "__str__", "total_seconds", "__add__", "__sub__", "__neg__", "__pos__", "__abs__",
    "__mul__", "__div__", "__eq__", "__ne__", "__le__", "__lt__", "__ge__", "__gt__", "__nonzero__",
    "__reduce__"].map fun n => (n, "timedelta", n)) ++
  [("__rmul__", "timedelta", "__mul__"), ("__floordiv__", "timedelta", "__div__"),
    ("__format__", "object", "__format__")]

/-- The methods of dates. -/
def dateMethods : List (String × String × String) :=
  (["fromtimestamp", "fromordinal", "__repr__", "ctime", "strftime", "__format__", "isoformat",
    "timetuple", "toordinal", "replace", "__eq__", "__ne__", "__le__", "__lt__", "__ge__", "__gt__",
    "__add__", "__sub__", "weekday", "isoweekday", "isocalendar", "__reduce__"].map
    fun n => (n, "date", n)) ++
  [("__str__", "date", "isoformat"), ("__radd__", "date", "__add__")]

/-- The methods of moments: their own, then those of dates they keep. -/
def momentMethods : List (String × String × String) :=
  (["fromtimestamp", "utcfromtimestamp", "combine", "timetuple", "utctimetuple", "date", "time",
    "timetz", "replace", "astimezone", "ctime", "isoformat", "__repr__", "__str__", "strptime",
    "utcoffset", "tzname", "dst", "__eq__", "__ne__", "__le__", "__lt__", "__ge__", "__gt__",
    "__add__", "__sub__", "__reduce__"].map fun n => (n, "datetime", n)) ++
  [("__radd__", "datetime", "__add__")] ++
  (["fromordinal", "strftime", "__format__", "toordinal", "weekday", "isoweekday",
    "isocalendar"].map fun n => (n, "date", n))

/-- The methods of times of day. -/
def timeMethods : List (String × String × String) :=
  (["__eq__", "__ne__", "__le__", "__lt__", "__ge__", "__gt__", "__repr__", "isoformat", "strftime",
    "__format__", "utcoffset", "tzname", "dst", "replace", "__nonzero__", "__reduce__"].map
    fun n => (n, "time", n)) ++
  [("__str__", "time", "isoformat")]

/-- The methods of zones; a fixed zone answers its questions itself. -/
def zoneMethods (fixed : Bool) : List (String × String × String) :=
  let own := if fixed then ["utcoffset", "dst", "tzname", "__repr__"].map fun n => (n, "FixedTZ", n) else []
  own ++ (["tzname", "utcoffset", "dst", "fromutc", "__reduce__"].map fun n => (n, "tzinfo", n)) ++
    (["__repr__", "__str__", "__format__", "__eq__", "__ne__", "__lt__", "__le__", "__gt__",
      "__ge__"].map fun n => (n, "object", n))

/-- The method a table gives a name, if any. -/
def methodIn (table : List (String × String × String)) (name : String) : Slot :=
  match table.find? (·.1 == name) with
  | some (_, owner, fn) => .method owner fn
  | none => .missing

/-- Where a name leads on an object. -/
def slotOf (zs : Zones) (o : Object) (name : String) : Slot :=
  let shared := fun (cls : String) (table : List (String × String × String)) =>
    match classAttribute? cls name with
    | some v => Slot.value v
    | none => methodIn table name
  match o, name with
  | .delta t, "days" => .value (.ofInt t.days)
  | .delta t, "seconds" => .value (.ofInt t.seconds)
  | .delta t, "microseconds" => .value (.ofInt t.micros)
  | .delta _, _ => shared "timedelta" durationMethods
  | .date d, "year" | .moment d _ _, "year" => .value (.ofInt d.year)
  | .date d, "month" | .moment d _ _, "month" => .value (.ofInt d.month)
  | .date d, "day" | .moment d _ _, "day" => .value (.ofInt d.day)
  | .date _, _ => shared "date" dateMethods
  | .time c _, "hour" | .moment _ c _, "hour" => .value (.ofInt c.hour)
  | .time c _, "minute" | .moment _ c _, "minute" => .value (.ofInt c.minute)
  | .time c _, "second" | .moment _ c _, "second" => .value (.ofInt c.second)
  | .time c _, "microsecond" | .moment _ c _, "microsecond" => .value (.ofInt c.micro)
  | .time _ z, "tzinfo" | .moment _ _ z, "tzinfo" => .value (Object.ofZone z)
  | .time .., _ => shared "time" timeMethods
  | .moment .., _ => shared "datetime" momentMethods
  | .zone id, _ => methodIn (zoneMethods ((Object.zoneOf? zs id).any Zone.answers)) name
  | _, _ => .missing

/-- The class a receiver stands for: itself if it is a class, else its class. -/
def receiverClass (zs : Zones) : Object → String
  | .kind name => name
  | o => o.typeName zs

/-- `object.__format__`: an empty format writes the object's text. -/
def plainFormat (self : Object) (args : List Object) (kwargs : List (String × Object)) : Calc Object := do
  unless kwargs.isEmpty do throw (.typeError "object.__format__() takes no keyword arguments")
  match args with
  | [.plain (.str s)] =>
    if s.isEmpty then return .ofString (← self.str)
    let zs ← read
    throw (.typeError s!"unsupported format string passed to {self.typeName zs}.__format__")
  | [o] =>
    let zs ← read
    throw (.typeError s!"__format__() argument must be str, not {o.typeName zs}")
  | _ => throw (.typeError s!"object.__format__() takes exactly one argument ({args.length} given)")

/-- The `__format__` of dates, times and moments: a text format, written with
`strftime` unless it is empty. -/
def formatWith (owner : String) (self : Object) (args : List Object) (kwargs : List (String × Object)) :
    Calc Object := do
  let fmt ← oneParam s!"{owner}.__format__" "fmt" self args kwargs
  match fmt with
  | .plain (.str s) =>
    if s.isEmpty then return .ofString (← self.str)
    return .ofString (← strftime self fmt (← self.timeFields))
  | o =>
    let zs ← read
    throw (.valueError s!"__format__ expects str or unicode, not {o.typeName zs}")

/-- Calls a method of durations. -/
def callDuration (t : Duration) (self : Object) (name : String) (args : List Object)
    (kwargs : List (String × Object)) : Calc Object := do
  let q := "timedelta." ++ name
  if isComparison name then
    match ← oneParam q "other" self args kwargs with
    | .delta u => return comparisonAnswer name (Duration.compare t u)
    | other => return ← mismatchAnswer name self other
  match name with
  | "__repr__" => noParams q self args kwargs; return .ofString t.repr
  | "__str__" => noParams q self args kwargs; return .ofString t.text
  | "total_seconds" => noParams q self args kwargs; return .plain (.float t.totalSeconds)
  | "__add__" | "__sub__" =>
    match ← oneParam q "other" self args kwargs with
    | .delta u => return .delta (← if name == "__add__" then t.add u else t.sub u)
    | _ => return .notImplemented
  | "__neg__" => noParams q self args kwargs; return .delta (← t.neg)
  | "__pos__" => noParams q self args kwargs; return .delta (← t.pos)
  | "__abs__" => noParams q self args kwargs; return .delta (← t.abs)
  | "__mul__" | "__div__" =>
    let k ← match ← oneParam q "other" self args kwargs with
      | .plain (.int k) => pure (some k)
      | .plain (.bool b) => pure (some (if b then 1 else 0))
      | _ => pure none
    match k with
    | some k => return .delta (← if name == "__mul__" then t.mul k else t.floorDiv k)
    | none => return .notImplemented
  | "__nonzero__" => noParams q self args kwargs; return .ofBool t.nonzero
  | "__reduce__" => noParams q self args kwargs; return .seq true [.kind "timedelta", .ofInts t.state]
  | _ => throw (Failure.noAttribute "timedelta" name)

/-- A date given as an argument compared with a date: by year, month and day. -/
def compareDates (a b : Date) : Ordering := compareKeys [a.year, a.month, a.day] [b.year, b.month, b.day]

/-- Calls a method that dates define, on a date or a moment. -/
def callDate (d : Date) (self : Object) (name : String) (args : List Object)
    (kwargs : List (String × Object)) : Calc Object := do
  let zs ← read
  let q := "date." ++ name
  if isComparison name then
    match ← oneParam q "other" self args kwargs with
    | .date e | .moment e _ _ => return comparisonAnswer name (compareDates d e)
    | other => return ← mismatchAnswer name self other
  match name with
  | "fromtimestamp" =>
    let t ← oneParam q "t" self args kwargs
    let (day, _) ← civilTime (← timestampSeconds zs t)
    ofDateFields (receiverClass zs self) day.year day.month day.day
  | "fromordinal" =>
    let n ← oneParam q "n" self args kwargs
    let (y, m, dd) ← ordinalFields zs n
    ofDateFields (receiverClass zs self) y m dd
  | "__repr__" => noParams q self args kwargs; return .ofString d.repr
  | "ctime" => noParams q self args kwargs; return .ofString (d.ctimeText 0 0 0)
  | "strftime" =>
    let fmt ← oneParam q "format" self args kwargs
    return .ofString (← strftime self fmt (← self.timeFields))
  | "__format__" => formatWith "date" self args kwargs
  | "isoformat" => noParams q self args kwargs; return .ofString d.isoText
  | "timetuple" => noParams q self args kwargs; return .ofInts (Date.fieldList (d.fields 0 0 0 (-1)))
  | "toordinal" => noParams q self args kwargs; return .ofInt d.toOrdinal
  | "weekday" => noParams q self args kwargs; return .ofInt d.weekday
  | "isoweekday" => noParams q self args kwargs; return .ofInt d.isoWeekday
  | "isocalendar" =>
    noParams q self args kwargs
    let (y, w, wd) := d.isoCalendar
    return .ofInts [y, w, wd]
  | "replace" =>
    match ← bindParams q ["year", "month", "day"] 3 self args kwargs with
    | [y, m, dd] => newDate (orElse y (.ofInt d.year)) (orElse m (.ofInt d.month)) (orElse dd (.ofInt d.day))
    | _ => throw (.assertionError "")
  | "__add__" =>
    match ← oneParam q "other" self args kwargs with
    | .delta t => return .date (← d.addDays t.days)
    | _ => return .notImplemented
  | "__sub__" =>
    match ← oneParam q "other" self args kwargs with
    | .date e | .moment e _ _ => return .delta (← dateDiff d e)
    | .delta t => return .date (← d.addDays (-t.days))
    | _ => return .notImplemented
  | "__reduce__" =>
    noParams q self args kwargs
    return .seq true [.kind "date", .seq true [.plain (.bytes (← packBytes d.stateBytes))]]
  | _ => throw (Failure.noAttribute "date" name)

/-- The daylight-saving adjustment or offset of an optional zone as a duration. -/
def zoneDuration (zone : Option Nat) (question : String) : Calc Object := do
  minutesObject (← zoneMinutes zone question)

/-- The name of an optional zone as an object. -/
def zoneNameObject (zone : Option Nat) : Calc Object := do
  match ← zoneLabel zone with
  | some s => pure (.ofString s)
  | none => pure .none

/-- Calls a method of times of day. -/
def callTime (c : Clock) (zone : Option Nat) (self : Object) (name : String) (args : List Object)
    (kwargs : List (String × Object)) : Calc Object := do
  let q := "time." ++ name
  if isComparison name then
    match ← oneParam q "other" self args kwargs with
    | .time c2 z2 => return comparisonAnswer name (← compareTimes c zone c2 z2)
    | other => return ← mismatchAnswer name self other
  match name with
  | "__repr__" => noParams q self args kwargs; return .ofString (← self.repr)
  | "isoformat" => noParams q self args kwargs; return .ofString (← timeIso c zone)
  | "strftime" =>
    let fmt ← oneParam q "format" self args kwargs
    return .ofString (← strftime self fmt (← self.timeFields))
  | "__format__" => formatWith "time" self args kwargs
  | "utcoffset" => noParams q self args kwargs; zoneDuration zone "utcoffset"
  | "dst" => noParams q self args kwargs; zoneDuration zone "dst"
  | "tzname" => noParams q self args kwargs; zoneNameObject zone
  | "replace" =>
    match ← bindParams q ["hour", "minute", "second", "microsecond", "tzinfo"] 5 self args kwargs with
    | [h, m, s, us, tz] =>
      newTime (orElse h (.ofInt c.hour)) (orElse m (.ofInt c.minute)) (orElse s (.ofInt c.second))
        (orElse us (.ofInt c.micro)) (keepZone tz zone)
    | _ => throw (.assertionError "")
  | "__nonzero__" =>
    noParams q self args kwargs
    if c.second != 0 || c.micro != 0 then return .ofBool true
    let off := (← zoneMinutes zone "utcoffset").getD 0
    return .ofBool (c.hour * 60 + c.minute != off)
  | "__reduce__" =>
    noParams q self args kwargs
    let state : Object := .plain (.bytes (← packBytes c.stateBytes))
    let items := match zone with
      | some id => [state, .zone id]
      | none => [state]
    return .seq true [.kind "time", .seq true items]
  | _ => throw (Failure.noAttribute "time" name)

/-- A moment of universal time brought into a zone's local time, as `fromutc`
computes it from the answers of the zone's methods: moved by the offset less the
daylight saving at the moment, then by the daylight saving at the moment
reached. -/
def fromUniversalBy (tz : ZoneMethods) (m : Date × Clock) : Calc (Date × Clock) := do
  let some off ← methodMinutes tz "utcoffset" m
    | throw (.valueError "fromutc() requires a non-None utcoffset() result")
  let some dst ← methodMinutes tz "dst" m
    | throw (.valueError "fromutc() requires a non-None dst() result")
  -- a duration has no truth value of its own here, so both shifts always happen
  let delta ← (← Duration.ofMinutes off).sub (← Duration.ofMinutes dst)
  let m ← shiftMoment m.1 m.2 delta 1
  let some dst ← methodMinutes tz "dst" m
    | throw (.valueError "fromutc(): dt.dst gave inconsistent results; cannot convert")
  let m ← shiftMoment m.1 m.2 (← Duration.ofMinutes dst) 1
  return m

/-- A moment brought into a zone from universal time, as the zone's
`fromutc` does. -/
def fromUniversal (id : Nat) (dt : Object) : Calc Object := do
  match dt with
  | .moment d c z =>
    unless z == some id do throw (.valueError "dt.tzinfo is not self")
    let (d, c) ← fromUniversalBy (tableMethods id) (d, c)
    return .moment d c z
  | _ => throw (.typeError "fromutc() requires a datetime argument")

/-- A moment of one zone brought into another, as `astimezone` does between two
zones: back to universal time by the offset of its own zone, then into the
other zone as that zone's `fromutc` does. -/
def intoZoneBy (mine target : ZoneMethods) (m : Date × Clock) : Calc (Date × Clock) := do
  let some off ← methodMinutes mine "utcoffset" m
    | throw (.valueError "astimezone() requires an aware datetime")
  let utc ← shiftMoment m.1 m.2 (← Duration.ofMinutes off) (-1)
  fromUniversalBy target utc

/-- A text argument of the format reader, by its position. -/
def strptimeArg (zs : Zones) (index : Nat) : Object → Except Failure String
  | .plain (.str s) => .ok s
  | o => .error (.typeError s!"strptime() argument {index} must be str, not {o.typeText zs}")

/-- Calls a method that moments define. -/
def callMoment (d : Date) (c : Clock) (zone : Option Nat) (self : Object) (name : String)
    (args : List Object) (kwargs : List (String × Object)) : Calc Object := do
  let zs ← read
  let q := "datetime." ++ name
  if isComparison name then
    match ← oneParam q "other" self args kwargs with
    | .moment d2 c2 z2 => return comparisonAnswer name (← compareMoments d c zone d2 c2 z2)
    | other => return ← mismatchAnswer name self other
  match name with
  | "fromtimestamp" =>
    match ← bindParams q ["timestamp", "tz"] 1 self args kwargs with
    | [some t, tz] =>
      let tz ← (tz.getD .none).zoneArg
      let (day, clock) ← momentOfTimestamp zs t
      let result : Object := .moment day clock tz
      match tz with
      | some id => fromUniversal id result
      | none => return result
    | _ => throw (.assertionError "")
  | "utcfromtimestamp" =>
    let t ← oneParam q "t" self args kwargs
    let (day, clock) ← momentOfTimestamp zs t
    return .moment day clock none
  | "combine" =>
    match ← bindParams q ["date", "time"] 0 self args kwargs with
    | [some dateArg, some timeArg] =>
      let day ← match dateArg with
        | .date e | .moment e _ _ => pure e
        | _ => throw (.typeError "date argument must be a date instance")
      let (clock, tz) ← match timeArg with
        | .time c2 z2 => pure (c2, z2)
        | _ => throw (.typeError "time argument must be a time instance")
      return .moment (← Date.ofInts day.year day.month day.day) clock tz
    | _ => throw (.assertionError "")
  | "strptime" =>
    match ← bindParams q ["date_string", "format"] 0 self args kwargs with
    | [some text, some fmt] =>
      checkParse (← strptimeArg zs 0 text) (← strptimeArg zs 1 fmt)
      throw (.valueError "too many values to unpack (expected 2)")
    | _ => throw (.assertionError "")
  | "timetuple" => noParams q self args kwargs; return .ofInts (Date.fieldList (← self.timeFields))
  | "utctimetuple" =>
    noParams q self args kwargs
    match ← zoneMinutes zone "utcoffset" with
    | some off =>
      if off != 0 then
        let (d2, c2) ← normalizeMoment d.year d.month d.day c.hour (c.minute - off) c.second 0 true
        return .ofInts (Date.fieldList (d2.fields c2.hour c2.minute c2.second 0))
      return .ofInts (Date.fieldList (d.fields c.hour c.minute c.second 0))
    | none => return .ofInts (Date.fieldList (d.fields c.hour c.minute c.second 0))
  | "date" => noParams q self args kwargs; return .date (← Date.ofInts d.year d.month d.day)
  | "time" => noParams q self args kwargs; return .time c none
  | "timetz" => noParams q self args kwargs; return .time c zone
  | "replace" =>
    match ← bindParams q ["year", "month", "day", "hour", "minute", "second", "microsecond", "tzinfo"] 8
        self args kwargs with
    | [y, m, dd, hh, mm, ss, us, tz] =>
      newMoment (orElse y (.ofInt d.year)) (orElse m (.ofInt d.month)) (orElse dd (.ofInt d.day))
        (orElse hh (.ofInt c.hour)) (orElse mm (.ofInt c.minute)) (orElse ss (.ofInt c.second))
        (orElse us (.ofInt c.micro)) (keepZone tz zone)
    | _ => throw (.assertionError "")
  | "astimezone" =>
    let tz ← oneParam q "tz" self args kwargs
    let .zone target := tz | throw (.typeError "tz argument must be an instance of tzinfo")
    let some mine := zone | throw (.valueError "astimezone() requires an aware datetime")
    if mine == target then return self
    let (d2, c2) ← intoZoneBy (tableMethods mine) (tableMethods target) (d, c)
    return .moment d2 c2 (some target)
  | "ctime" => noParams q self args kwargs; return .ofString (d.ctimeText c.hour c.minute c.second)
  | "isoformat" =>
    match ← bindParams q ["sep"] 1 self args kwargs with
    | [sep] =>
      let sep ← separatorOf (sep.getD (.ofString "T"))
      return .ofString (← momentIso d c zone sep)
    | _ => throw (.assertionError "")
  | "__repr__" => noParams q self args kwargs; return .ofString (← self.repr)
  | "__str__" => noParams q self args kwargs; return .ofString (← self.str)
  | "utcoffset" => noParams q self args kwargs; zoneDuration zone "utcoffset"
  | "dst" => noParams q self args kwargs; zoneDuration zone "dst"
  | "tzname" => noParams q self args kwargs; zoneNameObject zone
  | "__add__" =>
    match ← oneParam q "other" self args kwargs with
    | .delta t =>
      let (d2, c2) ← shiftMoment d c t 1
      return .moment d2 c2 zone
    | _ => return .notImplemented
  | "__sub__" =>
    match ← oneParam q "other" self args kwargs with
    | .moment d2 c2 z2 => return .delta (← momentDiff d c zone d2 c2 z2)
    | .delta t =>
      let (d2, c2) ← shiftMoment d c t (-1)
      return .moment d2 c2 zone
    | _ => return .notImplemented
  | "__reduce__" =>
    noParams q self args kwargs
    let state : Object := .plain (.bytes (← packBytes (d.stateBytes ++ c.stateBytes)))
    let items := match zone with
      | some id => [state, .zone id]
      | none => [state]
    return .seq true [.kind "datetime", .seq true items]
  | _ => throw (Failure.noAttribute "datetime" name)

/-- Calls a method of zones. -/
def callZone (id : Nat) (owner : String) (self : Object) (name : String) (args : List Object)
    (kwargs : List (String × Object)) : Calc Object := do
  let zs ← read
  let q := owner ++ "." ++ name
  match owner, name with
  | "object", "__format__" => plainFormat self args kwargs
  | "object", "__repr__" | "object", "__str__" => wrapperArgs name 0 args kwargs; return .ofString (← zoneRepr id)
  | "object", _ =>
    wrapperArgs name 1 args kwargs
    let same := match args with
      | [.zone other] => other == id
      | _ => false
    match name with
    | "__eq__" => return if same then .ofBool true else .notImplemented
    | "__ne__" => return if same then .ofBool false else .notImplemented
    | _ => return .notImplemented
  | "FixedTZ", "__repr__" => noParams q self args kwargs; return .ofString (← zoneRepr id)
  | _, "fromutc" => fromUniversal id (← oneParam q "dt" self args kwargs)
  | _, "__reduce__" => noParams q self args kwargs; return .seq true [.kind (self.typeName zs), .seq true []]
  | _, _ =>
    let _ ← oneParam q "dt" self args kwargs
    askZone id name

/-- Calls the method a class defines on an object. -/
def invoke (owner name : String) (self : Object) (args : List Object) (kwargs : List (String × Object)) :
    Calc Object := do
  match owner, self with
  | "timedelta", .delta t => callDuration t self name args kwargs
  | "object", .delta _ => plainFormat self args kwargs
  | "date", .date d | "date", .moment d _ _ => callDate d self name args kwargs
  | "time", .time c z => callTime c z self name args kwargs
  | "datetime", .moment d c z => callMoment d c z self name args kwargs
  | _, .zone id => callZone id owner self name args kwargs
  | _, _ => throw (Failure.noAttribute (self.typeName (← read)) name)

/-- Calls a method of an object by name. -/
def callMethod (self : Object) (name : String) (args : List Object) (kwargs : List (String × Object)) :
    Calc Object := do
  let zs ← read
  match slotOf zs self name with
  | .method owner fn => invoke owner fn self args kwargs
  | .value v => throw (.typeError s!"'{v.typeName zs}' object is not callable")
  | .missing => throw (Failure.noAttribute (self.typeName zs) name)

/-- Reads an attribute of an object by name. -/
def getAttribute (self : Object) (name : String) : Calc Object := do
  let zs ← read
  match slotOf zs self name with
  | .value v => pure v
  | .method owner fn => pure (.bound s!"{owner}.{fn}" self)
  | .missing => throw (Failure.noAttribute (self.typeName zs) name)

/-- The methods that a class offers to be called on it, with the name each
is defined under. -/
def classMethods : String → List (String × String × String)
  | "date" => [("fromtimestamp", "date", "fromtimestamp"), ("fromordinal", "date", "fromordinal")]
  | "datetime" =>
    [("fromtimestamp", "datetime", "fromtimestamp"), ("utcfromtimestamp", "datetime", "utcfromtimestamp"),
      ("combine", "datetime", "combine"), ("strptime", "datetime", "strptime"),
      ("fromordinal", "date", "fromordinal")]
  | _ => []

/-- The instance methods of a class. -/
def instanceMethods : String → List (String × String × String)
  | "timedelta" => durationMethods
  | "date" => dateMethods
  | "time" => timeMethods
  | "datetime" => momentMethods
  | "tzinfo" => zoneMethods false
  | _ => []

/-- Whether an object is an instance of a class. -/
def isInstance (zs : Zones) (o : Object) (cls : String) : Bool :=
  match cls, o with
  | "date", .date _ => true
  | "tzinfo", .zone _ => true
  | _, _ => o.typeName zs == cls

/-- Calls an attribute of a class: a class method with the class as receiver,
or an instance method with the first argument as the instance. -/
def callClass (cls name : String) (args : List Object) (kwargs : List (String × Object)) : Calc Object := do
  let zs ← read
  match (classMethods cls).find? (·.1 == name) with
  | some (_, owner, fn) =>
    match owner, fn with
    | "date", _ => callDate Date.first (.kind cls) fn args kwargs
    | _, _ => callMoment Date.first Clock.midnight none (.kind cls) fn args kwargs
  | none =>
    if let some v := classAttribute? cls name then
      throw (.typeError s!"'{v.typeName zs}' object is not callable")
    match (instanceMethods cls).find? (·.1 == name) with
    | some (_, owner, fn) =>
      match args with
      | self :: rest =>
        if isInstance zs self cls then invoke owner fn self rest kwargs
        else throw (.typeError s!"descriptor '{name}' for '{cls}' objects doesn't apply to a '{self.typeName zs}' object")
      | [] => throw (.typeError s!"{owner}.{fn}() missing 1 required positional argument: 'self'")
    | none => throw (.attributeError s!"type object '{cls}' has no attribute '{name}'")

/-- Reads an attribute of a class. -/
def getClassAttribute (cls name : String) : Calc Object := do
  if let some v := classAttribute? cls name then return v
  match (classMethods cls ++ instanceMethods cls).find? (·.1 == name) with
  | some (_, owner, fn) => return .bound s!"{owner}.{fn}" (.kind cls)
  | none => throw (.attributeError s!"type object '{cls}' has no attribute '{name}'")

/-- Calls a class to make an object of it. -/
def construct (cls : String) (args : List Object) (kwargs : List (String × Object)) : Calc Object := do
  let zs ← read
  let recv : Object := .kind cls
  match cls with
  | "timedelta" =>
    match ← bindParams "timedelta.__new__"
        ["days", "seconds", "microseconds", "milliseconds", "minutes", "hours", "weeks"] 7 recv args kwargs with
    | [days, secs, micros, millis, mins, hours, weeks] =>
      let amount := fun (o : Option Object) => o.map (Object.amount zs)
      return .delta (← Duration.ofParts (amount micros) (amount millis) (amount secs) (amount mins)
        (amount hours) (amount days) (amount weeks))
    | _ => throw (.assertionError "")
  | "date" =>
    match ← bindParams "date.__new__" ["year", "month", "day"] 2 recv args kwargs with
    | [some y, m, d] => newDate y (m.getD .none) (d.getD .none)
    | _ => throw (.assertionError "")
  | "time" =>
    match ← bindParams "time.__new__" ["hour", "minute", "second", "microsecond", "tzinfo"] 5 recv args kwargs with
    | [h, m, s, us, tz] =>
      let zero := Object.ofInt 0
      newTime (h.getD zero) (m.getD zero) (s.getD zero) (us.getD zero) (tz.getD .none)
    | _ => throw (.assertionError "")
  | "datetime" =>
    match ← bindParams "datetime.__new__"
        ["year", "month", "day", "hour", "minute", "second", "microsecond", "tzinfo"] 7 recv args kwargs with
    | [some y, m, d, hh, mm, ss, us, tz] =>
      let zero := Object.ofInt 0
      newMoment y (m.getD .none) (d.getD .none) (hh.getD zero) (mm.getD zero) (ss.getD zero) (us.getD zero)
        (tz.getD .none)
    | _ => throw (.assertionError "")
  | _ =>
    unless args.isEmpty && kwargs.isEmpty do throw (.typeError s!"{cls}() takes no arguments")
    throw (.typeError s!"cannot create '{cls}' instances")

end Basis.Calendar
