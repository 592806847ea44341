import Basis.Proofs.Calendar.Invariant
import Basis.Protocol.Datetime

/-!
# The objects of a calendar request hold the field invariant

A calendar request runs its steps one after the other (`CalendarRun.next`) and
keeps the object of each step that succeeded, for later steps to name. A
step's object comes from a constructor, a method of a class or of an object,
an attribute, or the module; the objects it works on are documents of its
own or objects of earlier steps. `KeptCalendrical` says that every object a
run keeps holds the field invariant `Object.Calendrical`.

A step keeps it when the methods it calls are ones that make dates and times
(`MakingCalls`): `fromordinal` or `combine` of a class, one of
`makingMethods` of an object. The class methods that read a timestamp are not
among them: the moment of one can lie past the last year
(`civilTime_past_maxYear`).

* The objects of a step's documents are plain values, sequences, zones and the
  objects of earlier steps (`decodeObject_calendrical`, `stepArgs_calendrical`).
* An attribute is a field, a class constant such as `date.max`, or a bound
  method (`getAttribute_calendrical`, `getClassAttribute_calendrical`).
* The rest is the constructors and the making methods
  (`construct_calendrical`, `callMethod_calendrical` and the class methods).

`calendarStep_calendrical` is one step, `next_keptCalendrical` the step of a
run, and `after_keptCalendrical` a whole run by induction on its steps; a
request starts from the empty run (`calendarRequest_keptCalendrical`).
`calendarSteps_append` ties the runs after some steps to the answers of the
steps that follow.
-/

namespace Basis.Protocol

open Basis.Calendar

/-! ## Running a step -/

theorem decode_bind_eq_ok {α β : Type} {x : DecodeM α} {f : α → DecodeM β} {zs zs'' : Zones} {b : β}
    (h : (x >>= f) zs = .ok (b, zs'')) : ∃ a zs', x zs = .ok (a, zs') ∧ f a zs' = .ok (b, zs'') := by
  obtain ⟨⟨a, zs'⟩, hx, h⟩ := bind_eq_ok h
  exact ⟨a, zs', hx, h⟩

theorem decode_lift_eq_ok {α : Type} {e : Except Failure α} {zs zs' : Zones} {a : α}
    (h : (liftM e : DecodeM α) zs = .ok (a, zs')) : e = .ok a ∧ zs' = zs := by
  obtain ⟨a', he, h⟩ := bind_eq_ok h
  cases h
  exact ⟨he, rfl⟩

/-- A calculation run with the zones of the request leaves them as they are. -/
theorem withZones_eq_ok {α : Type} {c : Calc α} {zs zs' : Zones} {a : α}
    (h : withZones c zs = .ok (a, zs')) : c zs = .ok a ∧ zs' = zs := by
  unfold withZones at h
  obtain ⟨_, _, hget, h⟩ := decode_bind_eq_ok h
  cases hget
  generalize hc : ReaderT.run c zs = r at h
  cases r with
  | ok a' =>
    cases h
    exact ⟨hc, rfl⟩
  | error f => cases h

/-- A document decoded and wrapped in an object that always holds the invariant
(a plain value, a sequence) gives one that holds it. -/
theorem decode_wrap_calendrical {α : Type} {x : DecodeM α} {f : α → Object} {zs zs' : Zones}
    {o : Object} (h : (x >>= fun a => pure (f a)) zs = .ok (o, zs')) (hf : ∀ a, (f a).Calendrical) :
    o.Calendrical := by
  obtain ⟨a, _, -, h⟩ := decode_bind_eq_ok h
  cases h
  exact hf a

/-! ## The objects a run keeps -/

/-- Every object a run has kept holds the field invariant. -/
def KeptCalendrical (results : Array (Option Object)) : Prop :=
  ∀ (i : Nat) (o : Object), results[i]? = some (some o) → o.Calendrical

theorem keptCalendrical_empty : KeptCalendrical #[] := by
  intro i o h
  simp at h

theorem KeptCalendrical.push {results : Array (Option Object)} {r : Option Object}
    (h : KeptCalendrical results) (hr : ∀ o, r = some o → o.Calendrical) :
    KeptCalendrical (results.push r) := by
  intro i o hi
  rw [Array.getElem?_push] at hi
  split at hi
  · cases hi
    exact hr o rfl
  · exact h i o hi

/-! ## The objects of a step's documents -/

/-- A zone document makes a zone. -/
theorem decodeZone_calendrical {results : Array (Option Object)} {members : List (String × Json)}
    {zs zs' : Zones} {o : Object} (h : decodeZone results members zs = .ok (o, zs')) :
    o.Calendrical := by
  unfold decodeZone at h
  obtain ⟨_, _, -, h⟩ := decode_bind_eq_ok h
  obtain ⟨_, _, -, h⟩ := decode_bind_eq_ok h
  obtain ⟨_, _, -, h⟩ := decode_bind_eq_ok h
  cases h
  trivial

section Documents

variable {results : Array (Option Object)} (hkept : KeptCalendrical results)
include hkept

theorem stepObject_calendrical {j : Json} {o : Object} (h : stepObject results j = .ok o) :
    o.Calendrical := by
  unfold stepObject at h
  split at h
  · split at h
    · split at h
      · cases h
        exact hkept _ _ ‹_›
      · cases h
    · cases h
  · cases h

theorem decodeObject_calendrical {j : Json} {zs zs' : Zones} {o : Object}
    (h : decodeObject results j zs = .ok (o, zs')) : o.Calendrical := by
  cases j
  case obj members =>
    rcases members with _ | ⟨⟨k, v⟩, _ | ⟨m, rest⟩⟩
    case cons.nil =>
      -- a reference to a step, a zone, a tuple, or a plain value
      rw [decodeObject.eq_def] at h
      dsimp only at h
      by_cases hstep : (k == "$step") = true
      · simp only [hstep, ↓reduceIte] at h
        exact stepObject_calendrical hkept (decode_lift_eq_ok h).1
      simp only [hstep, Bool.false_eq_true, ↓reduceIte] at h
      by_cases hzone : (k == "$tz") = true
      · simp only [hzone, ↓reduceIte] at h
        cases v
        case obj members => exact decodeZone_calendrical h
        all_goals cases h
      simp only [hzone, Bool.false_eq_true, ↓reduceIte] at h
      by_cases htuple : (k == "$tuple") = true
      · simp only [htuple, ↓reduceIte] at h
        cases v
        case arr items => exact decode_wrap_calendrical h fun _ => trivial
        all_goals cases h
      simp only [htuple, Bool.false_eq_true, ↓reduceIte] at h
      exact decode_wrap_calendrical h fun _ => trivial
    all_goals
      simp only [decodeObject] at h
      exact decode_wrap_calendrical h fun _ => trivial
  -- any other document is a sequence or a plain value
  all_goals
    simp only [decodeObject] at h
    exact decode_wrap_calendrical h fun _ => trivial

theorem decodeObjects_calendrical {items : List Json} {zs zs' : Zones} {os : List Object}
    (h : decodeObjects results items zs = .ok (os, zs')) : ∀ o ∈ os, o.Calendrical := by
  induction items generalizing zs os with
  | nil =>
    simp only [decodeObjects] at h
    cases h
    simp
  | cons j rest ih =>
    simp only [decodeObjects] at h
    obtain ⟨o, _, ho, h⟩ := decode_bind_eq_ok h
    obtain ⟨os', _, hos, h⟩ := decode_bind_eq_ok h
    cases h
    intro x hx
    rcases List.mem_cons.mp hx with rfl | hx
    · exact decodeObject_calendrical hkept ho
    · exact ih hos x hx

theorem decodeKeywords_calendrical {members : List (String × Json)} {zs zs' : Zones}
    {kws : List (String × Object)} (h : decodeKeywords results members zs = .ok (kws, zs')) :
    ∀ kv ∈ kws, kv.2.Calendrical := by
  induction members generalizing zs kws with
  | nil =>
    simp only [decodeKeywords] at h
    cases h
    simp
  | cons m rest ih =>
    obtain ⟨k, j⟩ := m
    simp only [decodeKeywords] at h
    obtain ⟨o, _, ho, h⟩ := decode_bind_eq_ok h
    obtain ⟨kws', _, hkws, h⟩ := decode_bind_eq_ok h
    cases h
    intro kv hkv
    rcases List.mem_cons.mp hkv with rfl | hkv
    · exact decodeObject_calendrical hkept ho
    · exact ih hkws kv hkv

theorem stepArgs_calendrical {step : Json} {zs zs' : Zones} {args : List Object}
    {kwargs : List (String × Object)} (h : stepArgs results step zs = .ok ((args, kwargs), zs')) :
    (∀ a ∈ args, a.Calendrical) ∧ ∀ kv ∈ kwargs, kv.2.Calendrical := by
  unfold stepArgs at h
  obtain ⟨args', _, hargs, h⟩ := decode_bind_eq_ok h
  obtain ⟨kwargs', _, hkwargs, h⟩ := decode_bind_eq_ok h
  cases h
  constructor
  · unfold stepPositional at hargs
    generalize step.get? "args" = given at hargs
    rcases given with _ | given
    · cases hargs
      simp
    cases given
    case arr items => exact decodeObjects_calendrical hkept hargs
    all_goals cases hargs
  · unfold stepKeywords at hkwargs
    generalize step.get? "kwargs" = given at hkwargs
    rcases given with _ | given
    · cases hkwargs
      simp
    cases given
    case obj members => exact decodeKeywords_calendrical hkept hkwargs
    all_goals cases hkwargs

end Documents

/-! ## Attributes -/

/-- The constants of the classes (`min`, `max`, `resolution`) hold the invariant. -/
theorem classAttribute_calendrical {cls name : String} {v : Object}
    (h : classAttribute? cls name = some v) : v.Calendrical := by
  unfold classAttribute? at h
  split at h <;> cases h <;> decide

theorem methodIn_ne_value {table : List (String × String × String)} {name : String} {v : Object} :
    methodIn table name ≠ .value v := by
  unfold methodIn
  split <;> simp

theorem ofZone_calendrical (z : Option Nat) : (Object.ofZone z).Calendrical := by
  cases z <;> trivial

/-- A name a class shares with its objects leads to one of its constants or
to a method. -/
theorem sharedSlot_value_calendrical {cls name : String} {table : List (String × String × String)}
    {v : Object}
    (h : (match classAttribute? cls name with
      | some v => Slot.value v
      | none => methodIn table name) = .value v) : v.Calendrical := by
  split at h
  · cases h
    exact classAttribute_calendrical ‹_›
  · exact absurd h methodIn_ne_value

/-- A value an object gives a name is a number, a zone, or a constant of its class. -/
theorem slotOf_value_calendrical {zs : Zones} {self : Object} {name : String} {v : Object}
    (h : slotOf zs self name = .value v) : v.Calendrical := by
  unfold slotOf at h
  split at h <;> dsimp only at h
  all_goals first
    | exact sharedSlot_value_calendrical h
    | exact absurd h methodIn_ne_value
    | cases h
  -- what is left is a field: a number, or the zone of a time or a moment
  all_goals first
    | trivial
    | exact ofZone_calendrical _

theorem getAttribute_calendrical {self : Object} {name : String} {zs : Zones} {o : Object}
    (h : getAttribute self name zs = .ok o) : o.Calendrical := by
  simp only [getAttribute, calc_read_bind] at h
  generalize hslot : slotOf zs self name = slot at h
  cases slot with
  | value v =>
    cases h
    exact slotOf_value_calendrical hslot
  | method owner fn =>
    cases h
    trivial
  | missing => cases h

theorem getClassAttribute_calendrical {cls name : String} {zs : Zones} {o : Object}
    (h : getClassAttribute cls name zs = .ok o) : o.Calendrical := by
  unfold getClassAttribute at h
  generalize hattr : classAttribute? cls name = attr at h
  cases attr with
  | some v =>
    cases h
    exact classAttribute_calendrical hattr
  | none =>
    -- otherwise a method bound to the class, or nothing
    dsimp only at h
    generalize (classMethods cls ++ instanceMethods cls).find? (·.1 == name) = found at h
    rcases found with _ | ⟨_, owner, fn⟩
    · cases h
    · cases h
      trivial

theorem moduleAttribute_calendrical {name : String} {o : Object} (h : moduleAttribute name = .ok o) :
    o.Calendrical := by
  unfold moduleAttribute at h
  split at h
  · cases h
    trivial
  · cases h
    trivial
  · split at h
    · cases h
      trivial
    · cases h

/-! ## Steps -/

/-- The methods a step calls are ones that make dates and times: of a class,
`fromordinal` or `combine`. -/
def MakingCalls (step : Json) : Prop :=
  ∀ name, memberText? step "call" = some name →
    name ∈ makingMethods ∧ ((memberText? step "cls").isSome → name = "fromordinal" ∨ name = "combine")

section Steps

variable {results : Array (Option Object)} {step : Json} {zs zs' : Zones} {o : Object}

/-- A class called makes a checked object of it, or a zone, whatever the
arguments. -/
theorem newStep_calendrical {cls : String} (h : newStep results cls step zs = .ok (o, zs')) :
    o.Calendrical := by
  unfold newStep at h
  obtain ⟨cls, _, -, h⟩ := decode_bind_eq_ok h
  obtain ⟨⟨args, kwargs⟩, _, -, h⟩ := decode_bind_eq_ok h
  by_cases hzone : (cls == "tzinfo") = true
  · -- a zone: made, or refused for its arguments
    simp only [hzone, ↓reduceIte] at h
    by_cases hempty : (args.isEmpty && kwargs.isEmpty) = true
    · simp only [hempty, ↓reduceIte] at h
      obtain ⟨_, _, -, h⟩ := decode_bind_eq_ok h
      obtain ⟨_, _, -, h⟩ := decode_bind_eq_ok h
      cases h
      trivial
    · simp only [hempty, Bool.false_eq_true, ↓reduceIte] at h
      obtain ⟨_, _, h, -⟩ := decode_bind_eq_ok h
      cases h
  · simp only [hzone, Bool.false_eq_true, ↓reduceIte] at h
    exact construct_calendrical (withZones_eq_ok h).1

variable (hkept : KeptCalendrical results) (hcalls : MakingCalls step)
include hkept hcalls

/-- A class method a step may call, `fromordinal` or `combine`, or a class
attribute read. -/
theorem classStep_calendrical {cls : String} (hcls : memberText? step "cls" = some cls)
    (h : classStep results cls step zs = .ok (o, zs')) : o.Calendrical := by
  unfold classStep at h
  obtain ⟨cls, _, -, h⟩ := decode_bind_eq_ok h
  generalize hcall : memberText? step "call" = call at h
  cases call with
  | some name =>
    obtain ⟨_, _, -, h⟩ := decode_bind_eq_ok h
    obtain ⟨⟨args, kwargs⟩, _, hgiven, h⟩ := decode_bind_eq_ok h
    obtain ⟨hargs, hkw⟩ := stepArgs_calendrical hkept hgiven
    have hclass := (withZones_eq_ok h).1
    rcases (hcalls name hcall).2 (by simp [hcls]) with rfl | rfl
    · exact callClass_fromordinal_calendrical hclass
    · exact callClass_combine_calendrical hargs hkw hclass
  | none =>
    dsimp only at h
    generalize memberText? step "get" = get at h
    cases get with
    | some name =>
      obtain ⟨_, _, -, h⟩ := decode_bind_eq_ok h
      exact getClassAttribute_calendrical (withZones_eq_ok h).1
    | none => cases h

/-- A making method of an object that holds the invariant, or an attribute read. -/
theorem objectStep_calendrical {target : Json} (h : objectStep results target step zs = .ok (o, zs')) :
    o.Calendrical := by
  unfold objectStep at h
  generalize hcall : memberText? step "call" = call at h
  cases call with
  | some name =>
    obtain ⟨_, _, -, h⟩ := decode_bind_eq_ok h
    obtain ⟨self, _, hself, h⟩ := decode_bind_eq_ok h
    obtain ⟨⟨args, kwargs⟩, _, hgiven, h⟩ := decode_bind_eq_ok h
    obtain ⟨hargs, hkw⟩ := stepArgs_calendrical hkept hgiven
    exact callMethod_calendrical hargs hkw (hcalls name hcall).1
      (decodeObject_calendrical hkept hself) (withZones_eq_ok h).1
  | none =>
    dsimp only at h
    generalize memberText? step "get" = get at h
    cases get with
    | some name =>
      obtain ⟨_, _, -, h⟩ := decode_bind_eq_ok h
      obtain ⟨self, _, -, h⟩ := decode_bind_eq_ok h
      exact getAttribute_calendrical (withZones_eq_ok h).1
    | none => cases h

theorem calendarStep_calendrical (h : calendarStep results step zs = .ok (o, zs')) :
    o.Calendrical := by
  unfold calendarStep at h
  generalize memberText? step "new" = new at h
  cases new with
  | some cls => exact newStep_calendrical h
  | none =>
    dsimp only at h
    generalize hcls : memberText? step "cls" = clsText at h
    cases clsText with
    | some cls => exact classStep_calendrical hkept hcalls hcls h
    | none =>
      dsimp only at h
      generalize step.get? "obj" = target at h
      cases target with
      | some target => exact objectStep_calendrical hkept hcalls h
      | none =>
        -- an attribute of the module
        dsimp only at h
        generalize memberText? step "module" = module at h
        cases module with
        | some name =>
          obtain ⟨_, _, -, h⟩ := decode_bind_eq_ok h
          exact moduleAttribute_calendrical (decode_lift_eq_ok h).1
        | none => cases h

theorem answerStep_calendrical {j : Json} (h : answerStep results step zs = .ok ((o, j), zs')) :
    o.Calendrical := by
  unfold answerStep at h
  obtain ⟨o', _, ho, h⟩ := decode_bind_eq_ok h
  obtain ⟨_, _, -, h⟩ := decode_bind_eq_ok h
  cases h
  exact calendarStep_calendrical hkept hcalls ho

end Steps

/-! ## Runs -/

/-- A step of a run keeps the invariant: it keeps the object it made, which
holds it, or nothing. -/
theorem CalendarRun.next_keptCalendrical {run : CalendarRun} {step : Json}
    (hkept : KeptCalendrical run.results) (hcalls : MakingCalls step) :
    KeptCalendrical (run.next step).2.results := by
  unfold CalendarRun.next
  split
  next o j zones hstep =>
    refine hkept.push fun o' ho' => ?_
    cases ho'
    exact answerStep_calendrical hkept hcalls hstep
  next =>
    refine hkept.push fun o' ho' => ?_
    cases ho'

/-- The run after some steps. -/
def CalendarRun.after (run : CalendarRun) (steps : List Json) : CalendarRun :=
  steps.foldl (fun r step => (r.next step).2) run

/-- The answers to some steps and then others are the answers to the first,
then those of the others from the run the first leave. -/
theorem calendarSteps_append (pre post : List Json) (run : CalendarRun) :
    calendarSteps (pre ++ post) run = calendarSteps pre run ++ calendarSteps post (run.after pre) := by
  induction pre generalizing run with
  | nil => rfl
  | cons step rest ih =>
    simp only [List.cons_append, calendarSteps, ih, CalendarRun.after, List.foldl_cons]

/-- A run whose steps call only methods that make dates and times keeps only
objects that hold the invariant, whatever its steps' arguments. -/
theorem CalendarRun.after_keptCalendrical {run : CalendarRun} {steps : List Json}
    (hkept : KeptCalendrical run.results) (hcalls : ∀ step ∈ steps, MakingCalls step) :
    KeptCalendrical (run.after steps).results := by
  induction steps generalizing run with
  | nil => exact hkept
  | cons step rest ih =>
    -- the invariant after the first step carries the rest
    exact ih (run.next_keptCalendrical hkept (hcalls step List.mem_cons_self))
      fun s hs => hcalls s (List.mem_cons_of_mem step hs)

/-- A request runs its steps from the empty run: when they call only methods
that make dates and times, every object it keeps, after any number of its
steps, holds the invariant. -/
theorem calendarRequest_keptCalendrical {steps : List Json}
    (hcalls : ∀ step ∈ steps, MakingCalls step) :
    KeptCalendrical (({} : CalendarRun).after steps).results :=
  CalendarRun.after_keptCalendrical keptCalendrical_empty hcalls

end Basis.Protocol
