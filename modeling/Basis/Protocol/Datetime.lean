import Basis.Calendar.Methods
import Basis.Protocol.Encoding
import Basis.Protocol.Scrub

/-!
# Requests on dates and times

A calendar request runs steps one after the other. A step makes an object of
a class (`new`), calls or reads an attribute of a class (`cls`), of an object
(`obj`) or of the module (`module`). Each step answers with its value or its
failure, and its object can be named by later steps as `{"$step": i}`; naming
a step that failed fails with `BadRef`, naming one not yet run is refused.

`{"$tz": {...}}` makes a fixed zone that answers `utcoffset`, `dst` and
`tzname` with the objects given (none when left out), written with its label.
A name that starts with a single underscore, and names that read the clock or
reach into the object model, are refused.

Objects of the module answer with their class, their representation and their
text, either of which may be a failure; texts pass through `scrub`.
-/

namespace Basis.Protocol

open Basis.Calendar

/-- The names a step may not call or read. -/
def refusedNames : List String :=
  ["today", "now", "utcnow", "__hash__", "__reduce_ex__", "__init__", "__new__", "__setattr__", "__delattr__",
    "__getattribute__", "__class__", "__dict__", "__init_subclass__", "__subclasshook__", "__dir__", "__sizeof__"]

/-- Refuses a name that a step may not use. -/
def checkName (name : String) : Except Failure Unit :=
  if refusedNames.contains name || (name.startsWith "_" && !name.startsWith "__") then
    .error (refused s!"forbidden name '{name}'")
  else .ok ()

/-- The classes a request may name. -/
def calendarClasses : List String := ["timedelta", "date", "time", "datetime", "tzinfo"]

/-- The state of a calendar request: the outcome of each step so far (none for
a failed one) and the zones made. -/
structure CalendarRun where
  /-- The object of each step run, none for a failed one. -/
  results : Array (Option Object) := #[]
  /-- The zones made so far. -/
  zones : Zones := #[]

/-- Decoding documents into objects, making zones as it goes. -/
abbrev DecodeM := StateT Zones (Except Failure)

/-- The object of a step named by a `$step` document. -/
def stepObject (results : Array (Option Object)) (j : Json) : Except Failure Object :=
  match j with
  | .int i =>
    if 0 ≤ i && i.toNat < results.size then
      match results[i.toNat]? with
      | some (some o) => .ok o
      | _ => .error ⟨"BadRef", s!"step {i} failed"⟩
    else .error (refused s!"bad $step {i}")
  | _ => .error (refused "bad step")

mutual

/-- The object of a document of a step. -/
def decodeObject (results : Array (Option Object)) : Json → DecodeM Object
  | .arr items => do pure (.seq false (← decodeObjects results items))
  | .obj [(k, v)] =>
    if k == "$step" then stepObject results v
    else if k == "$tz" then
      match v with
      | .obj members => decodeZone results members
      | _ => throw (unknownSpec k)
    else if k == "$tuple" then
      match v with
      | .arr items => do pure (.seq true (← decodeObjects results items))
      | _ => throw (unknownSpec k)
    else do pure (.plain (← decode (.obj [(k, v)])))
  | j => do pure (.plain (← decode j))

/-- The objects of documents. -/
def decodeObjects (results : Array (Option Object)) : List Json → DecodeM (List Object)
  | [] => pure []
  | j :: rest => do
    let o ← decodeObject results j
    let os ← decodeObjects results rest
    pure (o :: os)

/-- The zone of a `$tz` document's members, added to the zones. -/
def decodeZone (results : Array (Option Object)) (members : List (String × Json)) : DecodeM Object := do
  let answers ← decodeAnswers results members
  let label := match members.find? (·.1 == "label") with
    | some (_, .str s) => some s
    | some (_, j) => some j.render
    | none => none
  let zone : Zone := { answers := true, utcoffset := answers.lookup "utcoffset", dst := answers.lookup "dst",
                       name := answers.lookup "tzname", label }
  let zs ← get
  set (zs.push zone)
  pure (.zone zs.size)

/-- The objects a zone answers its questions with, by question. -/
def decodeAnswers (results : Array (Option Object)) : List (String × Json) → DecodeM (List (String × Object))
  | [] => pure []
  | (k, j) :: rest => do
    if k == "utcoffset" || k == "dst" || k == "tzname" then
      let o ← decodeObject results j
      pure ((k, o) :: (← decodeAnswers results rest))
    else decodeAnswers results rest

end

/-- The keyword arguments of a step. -/
def decodeKeywords (results : Array (Option Object)) : List (String × Json) → DecodeM (List (String × Object))
  | [] => pure []
  | (k, j) :: rest => do
    let o ← decodeObject results j
    pure ((k, o) :: (← decodeKeywords results rest))

/-- The positional arguments of a step. -/
def stepPositional (results : Array (Option Object)) (step : Json) : DecodeM (List Object) :=
  match step.get? "args" with
  | some (.arr items) => decodeObjects results items
  | none => pure []
  | _ => throw (refused "bad step")

/-- The keyword arguments of a step. -/
def stepKeywords (results : Array (Option Object)) (step : Json) : DecodeM (List (String × Object)) :=
  match step.get? "kwargs" with
  | some (.obj members) => decodeKeywords results members
  | none => pure []
  | _ => throw (refused "bad step")

/-- The positional and keyword arguments of a step. -/
def stepArgs (results : Array (Option Object)) (step : Json) :
    DecodeM (List Object × List (String × Object)) := do
  let args ← stepPositional results step
  let kwargs ← stepKeywords results step
  pure (args, kwargs)

/-- The text of a member of a step. -/
def memberText? (step : Json) (key : String) : Option String :=
  match step.get? key with
  | some (.str s) => some s
  | _ => none

/-- A class a step names, refused when unknown. -/
def stepClass (name : String) : Except Failure String :=
  if calendarClasses.contains name then .ok name else .error (refused s!"unknown class '{name}'")

/-- Runs the calculation of a step with the zones of the request. -/
def withZones {α : Type} (c : Calc α) : DecodeM α := do
  let zs ← get
  match c.run zs with
  | .ok a => pure a
  | .error f => throw f

/-- Reads an attribute of the module. -/
def moduleAttribute (name : String) : Except Failure Object :=
  match name with
  | "MINYEAR" => .ok (.ofInt minYear)
  | "MAXYEAR" => .ok (.ofInt maxYear)
  | _ =>
    if calendarClasses.contains name then .ok (.kind name)
    else .error (.attributeError s!"module 'datetime' has no attribute '{name}'")

/-- A step that calls a class: an object of it, or a zone of the request's own. -/
def newStep (results : Array (Option Object)) (cls : String) (step : Json) : DecodeM Object := do
  let cls ← stepClass cls
  let (args, kwargs) ← stepArgs results step
  if cls == "tzinfo" then
    unless args.isEmpty && kwargs.isEmpty do throw (.typeError "tzinfo() takes no arguments")
    let zs ← get
    set (zs.push { answers := false })
    return .zone zs.size
  withZones (construct cls args kwargs)

/-- A step that calls a method of a class or reads one of its attributes. -/
def classStep (results : Array (Option Object)) (cls : String) (step : Json) : DecodeM Object := do
  let cls ← stepClass cls
  if let some name := memberText? step "call" then
    checkName name
    let (args, kwargs) ← stepArgs results step
    withZones (callClass cls name args kwargs)
  else if let some name := memberText? step "get" then
    checkName name
    withZones (getClassAttribute cls name)
  else throw (refused "bad step")

/-- A step that calls a method of an object or reads one of its attributes. -/
def objectStep (results : Array (Option Object)) (target step : Json) : DecodeM Object := do
  if let some name := memberText? step "call" then
    checkName name
    let self ← decodeObject results target
    let (args, kwargs) ← stepArgs results step
    withZones (callMethod self name args kwargs)
  else if let some name := memberText? step "get" then
    checkName name
    let self ← decodeObject results target
    withZones (getAttribute self name)
  else throw (refused "bad step")

/-- Runs one step. -/
def calendarStep (results : Array (Option Object)) (step : Json) : DecodeM Object := do
  if let some cls := memberText? step "new" then newStep results cls step
  else if let some cls := memberText? step "cls" then classStep results cls step
  else if let some target := step.get? "obj" then objectStep results target step
  else if let some name := memberText? step "module" then
    checkName name
    moduleAttribute name
  else throw (refused "bad step")

/-- The document of a failure, its message scrubbed. -/
def calendarFailure (f : Failure) : Json := .obj [("error", .str f.kind), ("message", .str (scrub f.message))]

/-- A text of an object, or its failure, as a document. -/
def textDocument (t : Calc String) : Calc Json := do
  match t.run (← read) with
  | .ok s => pure (.str (scrub s))
  | .error f => pure (calendarFailure f)

/-- The document of an object. -/
def encodeObject : Object → Calc Json
  | .plain v => pure (encode v)
  | .seq _ items => do pure (.arr (← encodeObjects items))
  | .kind name => pure (.single "$class" (.str name))
  | .notImplemented => pure (.single "$obj" (.str "NotImplemented"))
  | .bound q self => do
    pure (.obj [("$obj", .str "method"), ("repr", ← textDocument (Object.repr (.bound q self)))])
  | o => do
    let zs ← read
    pure (.obj [("$obj", .str (o.typeName zs)), ("repr", ← textDocument o.repr), ("str", ← textDocument o.str)])
where
  /-- The documents of objects. -/
  encodeObjects : List Object → Calc (List Json)
    | [] => pure []
    | o :: rest => do
      let j ← encodeObject o
      let js ← encodeObjects rest
      pure (j :: js)

/-- Runs one step and writes its object. -/
def answerStep (results : Array (Option Object)) (step : Json) : DecodeM (Object × Json) := do
  let o ← calendarStep results step
  let j ← withZones (encodeObject o)
  pure (o, j)

/-- Runs one step: its answer, and the run with its object added, or none for
a step that failed. -/
def CalendarRun.next (run : CalendarRun) (step : Json) : Json × CalendarRun :=
  match (answerStep run.results step).run run.zones with
  | .ok ((o, j), zones) => (.single "value" j, { results := run.results.push (some o), zones })
  | .error f => (calendarFailure f, { run with results := run.results.push none })

/-- Runs the steps of a request, answering each. -/
def calendarSteps : List Json → CalendarRun → List Json
  | [], _ => []
  | step :: rest, run => (run.next step).1 :: calendarSteps rest (run.next step).2

/-- The answer to a request on dates and times. -/
def answerDatetime (req : Json) : Except Failure Json := do
  let steps ← match req.get? "steps" with
    | some (.arr steps) => pure steps
    | _ => throw badRequest
  return .obj [("steps", .arr (calendarSteps steps {}))]

end Basis.Protocol
