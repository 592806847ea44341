import Basis.Collections.Deque
import Basis.Value.Signature
import Basis.Protocol.Hash

/-!
# Requests on a deque

A deque request builds a deque from arguments and then calls its methods, one
step at a time, answering each step with its value or failure and with the
state of the deque after it: the items, the length, the two end slots, the
count of changes and the bound.

An argument may be the deque itself or another deque, so an item of the deque
is an `Elem`. A deque cannot be iterated: its iterator has no way to produce a
next item. So every method that walks over a deque fails: counting, comparing
with another deque, extending by a deque, copying and writing its
representation. Removing and rotating only push and pop; indexing walks the blocks.

Iteration steps walk the deque by hand instead, item by item from an end, and
may push a `None` at the right end part-way; the next item after such a change
fails the walk.
-/

namespace Basis.Protocol

open Basis.Collections

/-- An item of a deque in a request. -/
inductive Elem where
  /-- A plain value. -/
  | plain (v : Value)
  /-- The deque of the request itself. -/
  | itself
  /-- Another deque, of plain values. -/
  | other (d : Deque Value) (maxlen : Value)
  deriving Inhabited

/-- The deque of a request, with its bound as given. -/
structure DequeState where
  /-- The deque. -/
  deque : Deque Elem
  /-- The bound, `None` for none. -/
  maxlen : Value

/-- The failure of iterating a deque. -/
def notIterable : Failure := .typeError "iter() returned non-iterator of type 'deque_iterator'"

/-- The order test of an operator on a comparison result. -/
def holds (op : String) (o : Ordering) : Bool :=
  match op with
  | "<" => o == .lt
  | "<=" => o != .gt
  | ">" => o == .gt
  | ">=" => o != .lt
  | _ => o == .eq

/-- Compares a value with an integer by an order operator; only real numbers compare. -/
def compareToInt (op : String) (v : Value) (k : Int) : Except Failure Bool :=
  match Value.numeric? v with
  | some _ =>
    if v.isComplex then .error (Value.unorderable op v (.int k))
    else .ok ((Value.compareReal? v (.int k)).map (holds op) |>.getD false)
  | none => .error (Value.unorderable op v (.int k))

/-- The bound test of a bound value: a length is over it when it is greater. -/
def boundTest (maxlen : Value) : Nat → Bool :=
  match maxlen with
  | .none => fun _ => false
  | m => fun n => (Value.compareReal? (.int n) m).map (holds ">") |>.getD false

/-- A fresh deque of plain items: checks the bound and pushes the items. -/
def buildDeque (items : Value) (maxlen : Value) : Except Failure (Deque Value) := do
  match maxlen with
  | .none => pure ()
  | m => if ← compareToInt "<" m 0 then throw (.valueError "maxlen must be non-negative")
  let xs ← items.iterate
  return xs.foldl Deque.pushRight (Deque.empty (boundTest maxlen))

/-- The parameters of the constructor. -/
def dequeInit : Signature := { name := "deque.__init__", params := ["self", "iterable", "maxlen"], defaults := 2 }

/-- The document of the state of a deque of plain values. -/
def plainState (d : Deque Value) (maxlen : Value) : Json :=
  .obj [("items", .arr (d.items.map encode)), ("length", .int d.length), ("leftndx", .int d.leftIndex.val),
    ("rightndx", .int d.rightIndex.val), ("state", .int d.changes), ("maxlen", encode maxlen)]

/-- The document of the deque's state, with `room` more levels of nesting
allowed for the deque inside itself before the cut. -/
def stateJson (s : DequeState) : Nat → Json
  | room =>
    .obj [("items", .arr (s.deque.items.map (elemJson s room))), ("length", .int s.deque.length),
      ("leftndx", .int s.deque.leftIndex.val), ("rightndx", .int s.deque.rightIndex.val),
      ("state", .int s.deque.changes), ("maxlen", encode s.maxlen)]
where
  /-- The document of an item. -/
  elemJson (s : DequeState) : Nat → Elem → Json
    | _, .plain v => encode v
    | _, .other d m => .single "$deque" (plainState d m)
    | 0, .itself => .single "$deep" (.bool true)
    | room + 1, .itself =>
      .single "$deque" (.obj [("items", .arr (s.deque.items.map (elemJson s room))),
        ("length", .int s.deque.length), ("leftndx", .int s.deque.leftIndex.val),
        ("rightndx", .int s.deque.rightIndex.val), ("state", .int s.deque.changes), ("maxlen", encode s.maxlen)])

/-- The levels of nesting before the cut. -/
def nestingRoom : Nat := 50

/-- The document of the state of the request's deque. -/
def dequeStateJson (s : DequeState) : Json := stateJson s nestingRoom

/-- The document of an item of the request's deque. -/
def encodeElem (s : DequeState) (e : Elem) : Json := stateJson.elemJson s nestingRoom e

/-- The item of an argument document. -/
def decodeElem (j : Json) : Except Failure Elem :=
  match j with
  | .obj (("$self", _) :: _) => .ok .itself
  | .obj (("$deque", items) :: _) => do
    let xs ← decode items
    let m ← match j.get? "maxlen" with
      | some mj => decode mj
      | none => pure .none
    let d ← buildDeque xs m
    return .other d m
  | _ => .plain <$> decode j

/-- Whether an item of the deque equals a value: plain values by value; a deque
and a plain value never; two deques cannot be compared. -/
def elemEquals (a b : Elem) : Except Failure Bool :=
  match a, b with
  | .plain x, .plain y => .ok (Value.equals x y)
  | .plain _, _ | _, .plain _ => .ok false
  | _, _ => .error notIterable

/-- The plain items of a value to extend by. -/
def itemsOf (e : Elem) : Except Failure (List Elem) :=
  match e with
  | .plain v => (v.iterate).map (·.map Elem.plain)
  | _ => .error notIterable

/-- The integer of an index argument, or the failure of comparing it with zero. -/
def indexOf (e : Elem) (op : String) : Except Failure Int :=
  match e with
  | .plain (.int n) => .ok n
  | .plain (.bool b) => .ok (if b then 1 else 0)
  | .plain (.float _) => .error (.typeError "list indices must be integers or slices, not float")
  | .plain v => .error (Value.unorderable op v (.int 0))
  | _ => .error (.typeError s!"'{op}' not supported between instances of 'deque' and 'int'")

/-- The names a step may not call. -/
def forbiddenDequeName (name : String) : Bool :=
  ["__init__", "__new__", "__hash__", "__setattr__", "__delattr__", "__getattribute__", "__class__",
    "__dict__", "__init_subclass__", "__subclasshook__", "__dir__", "__sizeof__"].contains name ||
  (name.startsWith "_" && !name.startsWith "__")

/-- The signature of a method of the deque, by name. -/
def dequeMethod (name : String) : Option (List String × Nat) :=
  match name with
  | "append" | "appendleft" => some (["x"], 0)
  | "count" | "remove" => some (["value"], 0)
  | "extend" | "extendleft" => some (["iterable"], 0)
  | "clear" | "pop" | "popleft" | "reverse" | "__len__" | "__iter__" | "__reversed__" | "__repr__"
  | "__copy__" | "__str__" => some ([], 0)
  | "rotate" => some (["n"], 1)
  | "__getitem__" | "__delitem__" => some (["index"], 0)
  | "__setitem__" => some (["index", "value"], 0)
  | "__eq__" | "__ne__" | "__lt__" | "__le__" | "__gt__" | "__ge__" | "__iadd__" => some (["other"], 0)
  | "__reduce_ex__" => some (["proto"], 0)
  | _ => none

/-- The value of a call: an item, or a value of its own. -/
inductive CallValue where
  /-- An item of a deque, or a plain value. -/
  | elem (e : Elem)
  /-- The deque itself. -/
  | itself
  /-- An iterator object. -/
  | iterator
  /-- The marker of an unsupported comparison. -/
  | notImplemented

/-- Runs a method on the deque, with its arguments bound. -/
def runMethod (s : DequeState) (name : String) (args : List Elem) : DequeState × Except Failure CallValue :=
  let d := s.deque
  let put := fun (d' : Deque Elem) => { s with deque := d' }
  let none_ : Except Failure CallValue := .ok (.elem (.plain .none))
  let arg := fun (i : Nat) => args.getD i (.plain .none)
  match name with
  | "append" => (put (d.pushRight (arg 0)), none_)
  | "appendleft" => (put (d.pushLeft (arg 0)), none_)
  | "clear" => (put d.clear, none_)
  | "pop" =>
    match d.popRight? with
    | some (x, d') => (put d', .ok (.elem x))
    | none => (s, .error (.indexError "pop from an empty deque"))
  | "popleft" =>
    match d.popLeft? with
    | some (x, d') => (put d', .ok (.elem x))
    | none => (s, .error (.indexError "pop from an empty deque"))
  | "extend" | "__iadd__" =>
    match arg 0 with
    | .itself => (s, .error notIterable)
    | e =>
      match itemsOf e with
      | .ok xs => (put (xs.foldl Deque.pushRight d), if name == "extend" then none_ else .ok .itself)
      | .error f => (s, .error f)
  | "extendleft" =>
    match arg 0 with
    | .itself => (s, .error notIterable)
    | e =>
      match itemsOf e with
      | .ok xs => (put (xs.foldl Deque.pushLeft d), none_)
      | .error f => (s, .error f)
  | "reverse" => (put d.reverse, none_)
  | "rotate" =>
    match args with
    | [] => (put (d.rotate 1), none_)
    | e :: _ =>
      if d.length ≤ 1 then (s, none_)
      else
        match indexOf e ">" with
        | .ok n => (put (d.rotate n), none_)
        | .error f => (s, .error f)
  | "remove" =>
    let (d', outcome) := d.remove (elemEquals · (arg 0))
    match outcome with
    | .found => (put d', none_)
    | .absent => (put d', .error (.valueError "deque.remove(x): x not in deque"))
    | .failed f => (put d', .error f)
  | "__len__" => (s, .ok (.elem (.plain (.int d.length))))
  | "__getitem__" =>
    match indexOf (arg 0) ">=" with
    | .ok i =>
      match d.get? i with
      | some x => (s, .ok (.elem x))
      | none => (s, .error (.indexError "deque index out of range"))
    | .error f => (s, .error f)
  | "__setitem__" =>
    match indexOf (arg 0) ">=" with
    | .ok i =>
      match d.set? i (arg 1) with
      | some d' => (put d', none_)
      | none => (s, .error (.indexError "deque index out of range"))
    | .error f => (s, .error f)
  | "__delitem__" =>
    match indexOf (arg 0) ">=" with
    | .ok i =>
      match d.erase? i with
      | some d' => (put d', none_)
      | none => (s, .error (.indexError "deque index out of range"))
    | .error f => (s, .error f)
  | "__iter__" | "__reversed__" => (s, .ok .iterator)
  | "__eq__" | "__ne__" | "__lt__" | "__le__" | "__gt__" | "__ge__" =>
    match arg 0 with
    | .plain _ => (s, .ok .notImplemented)
    | _ => (s, .error notIterable)
  | _ => (s, .error notIterable)

/-- The document of a call's value. -/
def callValueJson (s : DequeState) : CallValue → Json
  | .elem e => encodeElem s e
  | .itself => .single "$deque" (dequeStateJson s)
  | .iterator => .single "$obj" (.str "deque_iterator")
  | .notImplemented => .single "$obj" (.str "NotImplemented")

/-- Walks the deque from an end, collecting at most `take` items; pushes `None`
at the right end before the item numbered `mutateAt`, which then fails. -/
def walk (s : DequeState) (fromRight : Bool) (take : Nat) (mutateAt : Option Nat) :
    DequeState × Except Failure (List Elem × Bool) :=
  let items := if fromRight then s.deque.items.reverse else s.deque.items
  match mutateAt with
  | some k =>
    if k < take && k ≤ items.length then
      let s' := { s with deque := s.deque.pushRight (.plain .none) }
      (s', .error ⟨"RuntimeError", "deque mutated during iteration"⟩)
    else (s, .ok (items.take take, take > items.length))
  | none => (s, .ok (items.take take, take > items.length))

/-- Answers one step on the deque. -/
def dequeStep (s : DequeState) (step : Json) : DequeState × Json :=
  let finish := fun (s' : DequeState) (r : Except Failure Json) =>
    let stateMember := ("state", dequeStateJson s')
    match r with
    | .ok j => (s', .obj [("value", j), stateMember])
    | .error f => (s', .obj [("error", .str f.kind), ("message", .str f.message), stateMember])
  match step.get? "get", step.get? "call" with
  | some (.str "maxlen"), _ => finish s (.ok (encode s.maxlen))
  | some (.str name), _ => finish s (.error (.noAttribute "deque" name))
  | _, some (.str "iterate") | _, some (.str "iterate_reversed") =>
    let fromRight := match step.get? "call" with
      | some (.str "iterate_reversed") => true
      | _ => false
    let take := ((step.get? "take").bind Json.getInt?).getD 1000
    let mutateAt := ((step.get? "mutate_at").bind Json.getInt?).map Int.toNat
    let (s', r) := walk s fromRight take.toNat mutateAt
    finish s' (r.map fun (xs, stopped) =>
      .obj [("items", .arr (xs.map (encodeElem s'))), ("stopped", .bool stopped)])
  | _, some (.str name) =>
    if forbiddenDequeName name then finish s (.error (refused "forbidden"))
    else
      let argDocs := ((step.get? "args").bind Json.getArr?).getD []
      match argDocs.mapM decodeElem with
      | .error f => finish s (.error f)
      | .ok args =>
        match dequeMethod name with
        | none =>
          if name == "maxlen" then finish s (.error (.typeError s!"'{s.maxlen.typeName}' object is not callable"))
          else finish s (.error (.noAttribute "deque" name))
        | some (params, defaults) =>
          let sig : Signature := { name := "deque." ++ name, params := "self" :: params, defaults }
          match sig.bind (Elem.itself :: args) [] with
          | .error f => finish s (.error f)
          | .ok _ =>
            let (s', r) := runMethod s name args
            finish s' (r.map (callValueJson s'))
  | _, _ => finish s (.error (refused "bad step"))

/-- Answers the steps in order. -/
def dequeSteps (s : DequeState) : List Json → List Json
  | [] => []
  | step :: rest =>
    let (s', answer) := dequeStep s step
    answer :: dequeSteps s' rest

/-- The answer to a deque request. -/
def answerDeque (req : Json) : Except Failure Json := do
  let some steps := (req.get? "steps").bind Json.getArr? | throw badRequest
  let argDocs := ((req.get? "args").bind Json.getArr?).getD []
  let kwDocs := ((req.get? "kwargs").bind Json.getObj?).getD []
  let built : Except Failure DequeState := do
    let args ← argDocs.mapM decode
    let kwargs ← kwDocs.mapM fun (k, j) => do return (k, ← decode j)
    let b ← dequeInit.bind (Value.none :: args) kwargs
    let items := (b.positional.getD 1 none).getD (.tuple [])
    let maxlen := (b.positional.getD 2 none).getD .none
    let d ← buildDeque items maxlen
    return ⟨d.map Elem.plain, maxlen⟩
  match built with
  | .error f => return .single "init" (.obj [("error", .str f.kind), ("message", .str f.message)])
  | .ok s =>
    return .obj [("init", .single "state" (dequeStateJson s)), ("steps", .arr (dequeSteps s steps))]

end Basis.Protocol
