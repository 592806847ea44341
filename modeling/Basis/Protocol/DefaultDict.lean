import Basis.Collections.DefaultDict
import Basis.Protocol.Hash

/-!
# Requests on a default mapping

A request builds a default mapping from a factory and the arguments of a
mapping, then runs steps on it. Each step answers with its value or failure and
with the entries after it, or `"self-ref"` once the mapping holds itself.
-/

namespace Basis.Protocol

open Basis.Collections

/-- The factory that a request names. -/
def factoryOf : String → Option Value
  | "list" => some (.cls "list")
  | "int" => some (.cls "int")
  | "str" => some (.cls "str")
  | "dict" => some (.cls "dict")
  | "none" => some .none
  | "notcallable" => some (.int 5)
  | _ => none

/-- The entries of the mapping's positional argument: a mapping's own entries,
or the pairs of a sequence of pairs. -/
def pairsOf (v : Value) : Except Failure (List (Value × Value)) :=
  match v with
  | .dict entries => .ok entries
  | _ => do
    let items ← v.iterate.mapError fun _ => Failure.typeError s!"'{v.typeName}' object is not iterable"
    (items.zip (List.range items.length)).mapM fun (item, i) =>
      match item.iterate with
      | .error _ => .error (.typeError s!"cannot convert dictionary update sequence element #{i} to a sequence")
      | .ok [a, b] => .ok (a, b)
      | .ok xs => .error (.valueError s!"dictionary update sequence element #{i} has length {xs.length}; 2 is required")

/-- Builds the mapping from the factory and the other arguments. -/
def buildDefaultDict (args : List Value) (kwargs : List (String × Value)) : Except Failure DefaultDict := do
  let (factory, rest) := match args with
    | f :: rest => (f, rest)
    | [] => (.none, [])
  if !DefaultDict.isFactory factory then throw (.typeError "first argument must be callable")
  if rest.length > 1 then throw (.typeError s!"dict expected at most 1 argument, got {rest.length}")
  let pairs ← match rest with
    | [v] => pairsOf v
    | _ => pure []
  let d : DefaultDict := ⟨factory, []⟩
  let d ← pairs.foldlM (fun d (k, v) => d.insert k (.plain v)) d
  kwargs.foldlM (fun d (k, v) => d.insert (.str k) (.plain v)) d

/-- The document of a stored value: the mapping itself by its entries. -/
def slotJson (d : DefaultDict) : Slot → Json
  | .plain v => encode v
  | .itself =>
    .single "$defaultdict" (if d.selfReferent then .str "self-ref" else .arr [])

/-- The document of the entries, or `"self-ref"`. -/
def entriesJson (d : DefaultDict) : Json :=
  if d.selfReferent then .str "self-ref"
  else .arr (d.entries.map fun (k, v) => .arr [encode k, slotJson d v])

/-- Adds a value to a stored one, as `+=` does. -/
def addInPlace (x : Slot) (v : Value) : Except Failure Value :=
  match x with
  | .itself => .error (.typeError s!"unsupported operand type(s) for +=: 'defaultdict' and '{v.typeName}'")
  | .plain x =>
    match x, v with
    | .list xs, _ => do
      let ys ← v.iterate
      return .list (xs ++ ys)
    | .int a, .int b => .ok (.int (a + b))
    | .int a, .bool b => .ok (.int (a + if b then 1 else 0))
    | .bool a, .int b => .ok (.int ((if a then 1 else 0) + b))
    | .int a, .float b => .ok (.float (Float.ofInt a + b))
    | .float a, .float b => .ok (.float (a + b))
    | .float a, .int b => .ok (.float (a + Float.ofInt b))
    | .str a, .str b => .ok (.str (a ++ b))
    | .str _, _ => .error (.typeError s!"can only concatenate str (not \"{v.typeName}\") to str")
    | .tuple xs, .tuple ys => .ok (.tuple (xs ++ ys))
    | .tuple _, _ => .error (.typeError s!"can only concatenate tuple (not \"{v.typeName}\") to tuple")
    | x, v => .error (.typeError s!"unsupported operand type(s) for +=: '{x.typeName}' and '{v.typeName}'")

/-- Runs one call on the mapping. -/
def defaultDictCall (d : DefaultDict) (call : String) (args : List Value) :
    DefaultDict × Except Failure Json :=
  let arg := fun (i : Nat) => args.getD i .none
  let keep := fun (r : Except Failure Json) => (d, r)
  let update := fun (r : Except Failure DefaultDict) => match r with
    | .ok d' => (d', Except.ok Json.null)
    | .error f => (d, .error f)
  match call with
  | "getitem" =>
    match d.getItem (arg 0) with
    | .ok (d', v) => (d', .ok (slotJson d' v))
    | .error f => (d, .error f)
  | "__missing__" =>
    match d.missing (arg 0) with
    | .ok (d', v) => (d', .ok (slotJson d' v))
    | .error f => (d, .error f)
  | "setitem" => update (d.insert (arg 0) (.plain (arg 1)))
  | "self_insert" => update (d.insert (arg 0) .itself)
  | "delitem" => update (d.erase (arg 0))
  | "contains" => keep ((d.contains (arg 0)).map Json.bool)
  | "get" =>
    if args.isEmpty then keep (.error (.typeError "get expected at least 1 argument, got 0"))
    else if args.length > 2 then keep (.error (.typeError s!"get expected at most 2 arguments, got {args.length}"))
    else keep (do
      DefaultDict.checkKey (arg 0)
      match d.find? (arg 0) with
      | some v => return slotJson d v
      | none => return encode (arg 1))
  | "append_to" =>
    match d.getItem (arg 0) with
    | .error f => (d, .error f)
    | .ok (d', .plain (.list xs)) =>
      match d'.insert (arg 0) (.plain (.list (xs ++ [arg 1]))) with
      | .ok d'' => (d'', .ok .null)
      | .error f => (d', .error f)
    | .ok (d', .plain v) => (d', .error (.noAttribute v.typeName "append"))
    | .ok (d', .itself) => (d', .error (.noAttribute "defaultdict" "append"))
  | "add_to" =>
    match d.getItem (arg 0) with
    | .error f => (d, .error f)
    | .ok (d', x) =>
      match addInPlace x (arg 1) with
      | .error f => (d', .error f)
      | .ok v =>
        match d'.insert (arg 0) (.plain v) with
        | .ok d'' => (d'', .ok .null)
        | .error f => (d', .error f)
  | "__repr__" => keep (.ok (.str d.repr))
  | "copy" | "__copy__" =>
    keep (.ok (.single "$dict" (.arr (d.entries.map fun (k, v) => .arr [encode k, slotJson d v]))))
  | "__reduce__" => keep (.error (.noAttribute "defaultdict" "iteritems"))
  | "default_factory" => keep (.ok (encode d.factory))
  | _ => keep (.error (refused "bad step"))

/-- Answers the steps in order. -/
def defaultDictSteps (d : DefaultDict) : List Json → List Json
  | [] => []
  | step :: rest =>
    let call := ((step.get? "call").bind Json.getStr?).getD ""
    let argDocs := ((step.get? "args").bind Json.getArr?).getD []
    let (d', r) := match argDocs.mapM decode with
      | .ok args => defaultDictCall d call args
      | .error f => (d, .error f)
    let answer := match r with
      | .ok j => Json.obj [("value", j), ("items", entriesJson d')]
      | .error f => Json.obj [("error", .str f.kind), ("message", .str f.message), ("items", entriesJson d')]
    answer :: defaultDictSteps d' rest

/-- The answer to a default-mapping request. -/
def answerDefaultDict (req : Json) : Except Failure Json := do
  let some steps := (req.get? "steps").bind Json.getArr? | throw badRequest
  let argDocs := ((req.get? "args").bind Json.getArr?).getD []
  let kwDocs := ((req.get? "kwargs").bind Json.getObj?).getD []
  let factory ← match req.get? "factory" with
    | some (.str name) =>
      match factoryOf name with
      | some f => pure [f]
      | none => throw badRequest
    | some _ => throw badRequest
    | none => pure []
  let built : Except Failure DefaultDict := do
    let args ← argDocs.mapM decode
    let kwargs ← kwDocs.mapM fun (k, j) => do return (k, ← decode j)
    buildDefaultDict (factory ++ args) kwargs
  match built with
  | .error f => return .single "init" (.obj [("error", .str f.kind), ("message", .str f.message)])
  | .ok d => return .single "steps" (.arr (defaultDictSteps d steps))

end Basis.Protocol
