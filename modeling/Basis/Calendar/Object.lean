import Basis.Value.Basic
import Basis.Value.Repr
import Basis.Calendar.Duration
import Basis.Calendar.Clock

/-!
# The objects of the calendar

An `Object` is what the calendar's operations take and give: plain values,
lists and tuples of objects, durations, dates, times of day (with a zone or
none), moments (a date and a time of day, with a zone or none), zones, classes,
bound methods and the marker `notImplemented` that binary operations give for
operands they do not handle.

A `Zone` answers three questions about a moment: its offset from universal
time, its daylight-saving adjustment and its name. A zone of the bare base
class answers none of them; a fixed zone answers each with a set object (or
none). Zones are known by their place in the table of the request, so that two
references to one zone are the same zone.

An offset a zone gives is checked (`offsetMinutes`): it is none or a duration
of whole minutes strictly within a day either way. A name is none or text.

A zone's methods are asked about a moment (`ZoneMethods`); those of a zone of
the table answer alike about every moment (`tableMethods`).
-/

namespace Basis.Calendar

/-- A value of the calendar. -/
inductive Object where
  /-- A plain value. -/
  | plain (v : Value)
  /-- A list, or a tuple, of objects. -/
  | seq (tuple : Bool) (items : List Object)
  /-- A duration. -/
  | delta (t : Duration)
  /-- A date. -/
  | date (d : Date)
  /-- A time of day, with the zone it is in, if any. -/
  | time (c : Clock) (zone : Option Nat)
  /-- A date and a time of day, with the zone they are in, if any. -/
  | moment (d : Date) (c : Clock) (zone : Option Nat)
  /-- The zone of an index of the table. -/
  | zone (id : Nat)
  /-- The class of a name. -/
  | kind (name : String)
  /-- A method of a class, by its qualified name, bound to an object. -/
  | bound (qualname : String) (self : Object)
  /-- The answer of an operation to operands it does not handle. -/
  | notImplemented
  deriving Inhabited

/-- A time zone of a request. -/
structure Zone where
  /-- Whether the zone answers its questions; the bare base class does not. -/
  answers : Bool
  /-- The offset from universal time it gives, if set. -/
  utcoffset : Option Object := none
  /-- The daylight-saving adjustment it gives, if set. -/
  dst : Option Object := none
  /-- The name it gives, if set. -/
  name : Option Object := none
  /-- The label it is written with, if any. -/
  label : Option String := none
  deriving Inhabited

/-- The zones of a request, by index. -/
abbrev Zones := Array Zone

/-- A computation that reads the zones and may fail. -/
abbrev Calc := ReaderT Zones (Except Failure)

namespace Object

/-- The object `None`. -/
def none : Object := .plain .none

/-- A boolean object. -/
def ofBool (b : Bool) : Object := .plain (.bool b)

/-- An integer object. -/
def ofInt (n : Int) : Object := .plain (.int n)

/-- A text object. -/
def ofString (s : String) : Object := .plain (.str s)

/-- A tuple of integers. -/
def ofInts (ns : List Int) : Object := .seq true (ns.map ofInt)

/-- Whether the object is `None`. -/
def isNone : Object → Bool
  | .plain .none => true
  | _ => false

/-- The zone of an index, if the table has one. -/
def zoneOf? (zs : Zones) (id : Nat) : Option Zone := zs[id]?

/-- The name of the object's class. -/
def typeName (zs : Zones) : Object → String
  | .plain v => v.typeName
  | .seq tuple _ => if tuple then "tuple" else "list"
  | .delta _ => "timedelta"
  | .date _ => "date"
  | .time .. => "time"
  | .moment .. => "datetime"
  | .zone id => if (zoneOf? zs id).any Zone.answers then "FixedTZ" else "tzinfo"
  | .kind _ => "type"
  | .bound .. => "method"
  | .notImplemented => "NotImplementedType"

/-- The text of the object's class, as `<class 'datetime.date'>`. -/
def typeText (zs : Zones) (o : Object) : String :=
  let qualified := match o with
    | .delta _ | .date _ | .time .. | .moment .. => "datetime." ++ o.typeName zs
    | .zone id => if (zoneOf? zs id).any Zone.answers then "__main__.FixedTZ" else "datetime.tzinfo"
    | _ => o.typeName zs
  s!"<class '{qualified}'>"

/-- Whether the object is a date, moments being dates too. -/
def isDate : Object → Bool
  | .date _ | .moment .. => true
  | _ => false

/-- Whether the object is a zone. -/
def isZone : Object → Bool
  | .zone _ => true
  | _ => false

/-- The zone an argument names: none for `None`; fails for anything else but a zone. -/
def zoneArg : Object → Except Failure (Option Nat)
  | .plain .none => .ok Option.none
  | .zone id => .ok (some id)
  | _ => .error (.typeError "tzinfo argument must be None or of a tzinfo subclass")

/-- The object of an optional zone. -/
def ofZone : Option Nat → Object
  | some id => .zone id
  | Option.none => none

/-- A field of a date or time given as an argument. -/
def intField : Object → Except Failure Int
  | .plain v => Calendar.intField v
  | _ => .error (.typeError "an integer is required")

/-- The amount an argument gives toward a duration. -/
def amount (zs : Zones) : Object → Duration.Amount
  | .plain v => .ofValue v
  | o => .other (o.typeText zs)

end Object

/-- The failure of ordering two objects that do not compare. -/
def cannotCompare (zs : Zones) (a b : Object) : Failure :=
  .typeError s!"can't compare '{a.typeName zs}' to '{b.typeName zs}'"

/-- The zone of an index of the request's table. -/
def zoneAt (id : Nat) : Calc Zone := do
  match (← read)[id]? with
  | some z => pure z
  | none => throw (.assertionError "no such zone")

/-- What a zone gives for a question: `utcoffset`, `dst` or `tzname`. -/
def askZone (id : Nat) (question : String) : Calc Object := do
  let z ← zoneAt id
  unless z.answers do throw (.notImplemented s!"tzinfo subclass must override {question}()")
  let answer := match question with
    | "utcoffset" => z.utcoffset
    | "dst" => z.dst
    | _ => z.name
  pure (answer.getD .none)

/-- An offset that a zone gave for a question, in minutes: none, or a duration of
whole minutes strictly within a day either way. -/
def offsetMinutes (question : String) (o : Object) : Calc (Option Int) := do
  match o with
  | .plain .none => pure none
  | .delta t =>
    let minutes ←
      if t.days < -1 || t.days > 0 then pure 1440
      else
        let secs := t.days * 86400 + t.seconds
        if secs.fmod 60 != 0 || t.micros != 0 then
          throw (.valueError s!"tzinfo.{question}() must return a whole number of minutes")
        pure (secs.fdiv 60)
    unless -1440 < minutes && minutes < 1440 do
      throw (.valueError s!"{question}()={minutes}, must be in -1439..1439")
    pure (some minutes)
  | _ =>
    let zs ← read
    throw (.typeError s!"tzinfo.{question}() must return None or timedelta, not '{o.typeText zs}'")

/-- A name that a zone gave: none or text. -/
def zoneName (o : Object) : Calc (Option String) := do
  match o with
  | .plain .none => pure none
  | .plain (.str s) => pure (some s)
  | _ =>
    let zs ← read
    throw (.typeError s!"tzinfo.tzname() must return None or string, not '{o.typeText zs}'")

/-- The offset in minutes of an optional zone for a question, checked. -/
def zoneMinutes (zone : Option Nat) (question : String) : Calc (Option Int) := do
  match zone with
  | none => pure none
  | some id => offsetMinutes question (← askZone id question)

/-- The questions a zone is asked about a moment (`utcoffset`, `dst` or
`tzname`), as functions of the moment's date and time of day: what the zone's
methods answer. -/
abbrev ZoneMethods := String → Date × Clock → Calc Object

/-- The methods of a zone of the request's table, whose answers do not depend
on the moment asked about. -/
def tableMethods (id : Nat) : ZoneMethods := fun question _ => askZone id question

/-- The offset in minutes that a zone's methods answer for a question about a
moment, checked. -/
def methodMinutes (tz : ZoneMethods) (question : String) (m : Date × Clock) : Calc (Option Int) := do
  offsetMinutes question (← tz question m)

/-- The name of an optional zone, checked. -/
def zoneLabel (zone : Option Nat) : Calc (Option String) := do
  match zone with
  | none => pure none
  | some id => zoneName (← askZone id "tzname")

/-- The duration of an optional offset in minutes. -/
def minutesObject : Option Int → Calc Object
  | none => pure .none
  | some m => do pure (.delta (← Duration.ofMinutes m))

end Basis.Calendar
