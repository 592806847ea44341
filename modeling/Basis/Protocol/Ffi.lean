import Basis.Foreign.Command
import Basis.Foreign.Extension.Generate
import Basis.Protocol.Encoding
import Basis.Protocol.Scrub

/-!
# Requests on foreign functions

A request runs steps in one session: interfaces by name (`main` to start with),
named results (registers), the memory and the classes built so far. A step
calls a method of an interface, makes another interface, or works on a
register's value: reading through a path of items and attributes, assigning at
the end of one, calling, converting, or applying an operator. A step answers
with its value or its failure, and with the warnings it issued.

Arguments are documents as usual, and may name a register (`$ref`), an
interface (`$ffi`) or one of a few fixed functions of the scripting side
(`$py`). A register that an earlier step failed to produce fails the step
that names it.

Texts of answers pass through `scrub`, which drops what differs between runs:
the addresses of objects and data and the checkout directory.
-/

namespace Basis.Protocol

open Basis.Foreign

/-- The registers of a request: named results. -/
abbrev Registers := List (String × Datum)

/-- The functions of the scripting side that arguments may name. -/
def scriptFunctions : List String := ["add", "neg", "ident", "raise", "none", "alloc_none", "const42"]

mutual

/-- The datum of an argument document. -/
def argument (regs : Registers) : Json → Except Failure Datum
  | .arr items => .list <$> arguments regs items
  | .obj ((k, v) :: rest) =>
    if k == "$ref" then
      match v with
      | .str r =>
        match regs.find? (·.1 == r) with
        | some (_, d) => .ok d
        | none => .error ⟨"BadRef", r⟩
      | _ => .error (unknownSpec k)
    else if k == "$ffi" then
      match v with
      | .str n => .ok (.ffi n)
      | _ => .error (unknownSpec k)
    else if k == "$py" then
      match v with
      | .str n => if scriptFunctions.contains n then .ok (.function n) else .error (unknownSpec k)
      | _ => .error (unknownSpec k)
    else if k == "$tuple" then
      match v with
      | .arr items => .tuple <$> arguments regs items
      | _ => .error (unknownSpec k)
    else if k == "$dict" then
      match v with
      | .arr items => .dict <$> argumentPairs regs items
      | _ => .error (unknownSpec k)
    else if k.startsWith "$" then .plain <$> decode (.obj ((k, v) :: rest))
    else .dict <$> argumentMembers regs ((k, v) :: rest)
  | j => .plain <$> decode j

/-- The data of argument documents. -/
def arguments (regs : Registers) : List Json → Except Failure (List Datum)
  | [] => .ok []
  | j :: rest => do
    let d ← argument regs j
    let ds ← arguments regs rest
    return d :: ds

/-- The entries of a `$dict` argument. -/
def argumentPairs (regs : Registers) : List Json → Except Failure (List (Datum × Datum))
  | [] => .ok []
  | .arr [k, v] :: rest => do
    let kd ← argument regs k
    let vd ← argument regs v
    let tail ← argumentPairs regs rest
    return (kd, vd) :: tail
  | _ :: _ => .error (unknownSpec "$dict")

/-- The entries of an object argument, keyed by text. -/
def argumentMembers (regs : Registers) : List (String × Json) → Except Failure (List (Datum × Datum))
  | [] => .ok []
  | (k, v) :: rest => do
    let vd ← argument regs v
    let tail ← argumentMembers regs rest
    return (.str k, vd) :: tail

end

/-- The document of a datum of an answer. -/
def encodeDatum (d : Datum) : SessionM Json := do
  match d with
  | .plain v => pure (encode v)
  | .list items | .tuple items => return .arr (← items.attach.mapM fun ⟨x, _⟩ => encodeDatum x)
  | .dict entries =>
    return .single "$dict" (.arr (← entries.attach.mapM fun ⟨(k, x), _⟩ => do
      pure (Json.arr [← encodeDatum k, ← encodeDatum x])))
  | .cdata c => return .single "$cdata" (.str (scrub (← SessionM.cdataRepr c)))
  | .ctype c => return .obj [("$ctype", .str (← SessionM.classRepr c)), ("cname", .str (← SessionM.cName c))]
  | .ffi _ => pure (.single "$obj" (.str "FFI"))
  | .library _ => pure (.single "$obj" (.str "FFILibrary"))
  | .function _ | .decorator .. =>
    return .obj [("$obj", .str "function"), ("repr", .str (scrub (← SessionM.datumRepr d)))]
termination_by sizeOf d
decreasing_by
  all_goals
    have := List.sizeOf_lt_of_mem ‹_ ∈ _›
    simp only [Datum.list.sizeOf_spec, Datum.tuple.sizeOf_spec, Datum.dict.sizeOf_spec,
      Prod.mk.sizeOf_spec] at *
    omega

/-- The datum a path of items (numbers) and attributes (texts) leads to. -/
def followPath (d : Datum) : List Json → SessionM Datum
  | [] => pure d
  | .str a :: rest => do followPath (← SessionM.getAttr d a) rest
  | .int i :: rest => do followPath (← SessionM.getItem d (.int i)) rest
  | _ :: _ => throw (refused "bad step")

/-- The names `dir()` lists for a datum, sorted. -/
def dirOf (d : Datum) : SessionM (List String) := do
  match d with
  | .library lib =>
    let l ← SessionM.library lib
    let names := ((← SessionM.accessors l.ffi).map (·.1))
    pure (names.mergeSort fun a b => compare a b != .gt)
  | _ => pure []

/-- The byte string `bytes()` makes of a datum. -/
def bytesOf (d : Datum) : SessionM (List UInt8) := do
  let byteOf := fun (x : Datum) => do
    match x with
    | .plain (.int n) =>
      if n < 0 || n > 255 then throw (.valueError "bytes must be in range(0, 256)") else pure n.toNat.toUInt8
    | .plain (.bool b) => pure (if b then 1 else 0)
    | other => throw (.typeError ("'" ++ (← SessionM.typeName other) ++ "' object cannot be interpreted as an integer"))
  match d with
  | .plain (.bytes b) => pure b.toList
  | .plain (.str _) => throw (.typeError "string argument without an encoding")
  | .plain (.int n) =>
    if n < 0 then throw (.valueError "negative count") else pure (List.replicate n.toNat 0)
  | .cdata (.value ..) | .cdata (.record ..) =>
    throw (.typeError ("cannot convert '" ++ (← SessionM.typeName d) ++ "' object to bytes"))
  | _ => (← SessionM.items d).mapM byteOf

/-- Converts a datum with a named conversion. -/
def convertDatum (d : Datum) (target : String) : SessionM Datum := do
  match target with
  | "int" => return .int (← SessionM.toInt d)
  | "float" => return .float (← SessionM.toFloat d)
  | "bool" => return .bool (← SessionM.truthy d)
  | "len" => return .int (← SessionM.lengthOf d)
  | "list" => return .list (← SessionM.items d)
  | "repr" => return .str (scrub (← SessionM.datumRepr d))
  | "str" =>
    match d with
    | .plain (.str s) => return .str (scrub s)
    | _ => return .str (scrub (← SessionM.datumRepr d))
  | "dir" => return .list ((← dirOf d).map .str)
  | "bytes" => return .bytes (← bytesOf d)
  | _ => throw (refused "bad step")

/-- The text of a step member, if it is one. -/
def textOf? (step : Json) (key : String) : Option String :=
  match step.get? key with
  | some (.str s) => some s
  | _ => none

/-- The arguments and keyword arguments of a step. -/
def stepArguments (regs : Registers) (step : Json) : Except Failure (List Datum × List (String × Datum)) := do
  let args ← match step.get? "args" with
    | some (.arr items) => arguments regs items
    | none => pure []
    | some _ => throw (refused "bad step")
  let kwargs ← match step.get? "kwargs" with
    | some (.obj members) => members.mapM fun (k, v) => do pure (k, ← argument regs v)
    | none => pure []
    | some _ => throw (refused "bad step")
  return (args, kwargs)

/-- The methods of an interface that steps may call. -/
def interfaceMethods : List String :=
  ["cdef", "embedding_api", "embedding_init_code", "typeof", "sizeof", "alignof", "offsetof", "new",
    "new_allocator", "cast", "string", "unpack", "from_buffer", "memmove", "callback", "getctype",
    "addressof", "include", "new_handle", "from_handle", "release", "set_unicode", "set_source",
    "init_once", "def_extern", "list_types", "dlopen", "dlclose", "getwinerror", "buffer"]

/-- Lifts a decoding result into a session. -/
def lift {α : Type} : Except Failure α → SessionM α
  | .ok a => pure a
  | .error f => throw f

/-- The value of the register a step works on. -/
def stepTarget (regs : Registers) (step : Json) : SessionM Datum := do
  let some r := textOf? step "ref" | throw (refused "bad step")
  match regs.find? (·.1 == r) with
  | some (_, d) => pure d
  | none => throw ⟨"BadRef", r⟩

/-- Runs one step. -/
def ffiStep (regs : Registers) (step : Json) : SessionM Datum := do
  let ffi := (textOf? step "ffi").getD "main"
  let some act := textOf? step "do" | throw (refused "bad step")
  let path := match step.get? "path" with
    | some (.arr p) => p
    | _ => []
  match act with
  | "new_ffi" =>
    let some name := textOf? step "as" | throw (refused "bad step")
    modify fun s => { s with interfaces := (s.interfaces.filter (·.1 != name)) ++ [(name, {})] }
    pure .none
  | "get" =>
    let d ← stepTarget regs step
    followPath d path
  | "set" =>
    let (args, _) ← lift (stepArguments regs step)
    let d ← stepTarget regs step
    let value := args.headD .none
    match path.reverse with
    | [] => throw (refused "bad step")
    | last :: before =>
      let holder ← followPath d before.reverse
      match last with
      | .str a => SessionM.setAttr holder a value
      | .int i => SessionM.setItem holder (.int i) value
      | _ => throw (refused "bad step")
      pure .none
  | "call" =>
    let (args, kwargs) ← lift (stepArguments regs step)
    let d ← stepTarget regs step
    let f ← followPath d path
    SessionM.callDatum f args kwargs
  | "convert" =>
    let d ← stepTarget regs step
    let x ← followPath d path
    convertDatum x ((textOf? step "to").getD "")
  | "op" =>
    let (args, _) ← lift (stepArguments regs step)
    let x ← stepTarget regs step
    let y := args.headD .none
    match (textOf? step "opr").getD "" with
    | "+" => SessionM.plus x y
    | "-" => SessionM.minus x y
    | "[]" => SessionM.getItem x y
    | opr =>
      if ["==", "!=", "<", "<=", ">", ">="].contains opr then return .bool (← SessionM.compareData opr x y)
      throw (refused "bad step")
  | _ =>
    if interfaceMethods.contains act then
      let (args, kwargs) ← lift (stepArguments regs step)
      SessionM.runMethod ffi act args kwargs
    else throw (refused ("bad do '" ++ act ++ "'"))

/-- A build option's value from its document, at most `fuel` levels deep. -/
def keywordOf : Nat → Json → Keyword
  | 0, _ => .other "[...]"
  | _ + 1, .str s => .text s
  | _ + 1, .int n => .number n
  | _ + 1, .bool b => .number (if b then 1 else 0)
  | fuel + 1, .arr items => .seq (items.map (keywordOf fuel))
  | fuel + 1, .obj members => .table (members.map fun (k, v) => (k, keywordOf fuel v))
  | _ + 1, .null => .other "None"
  | _ + 1, .float x => .other (Value.floatRepr x)

/-- The document of a record of named texts. -/
def recordDoc (r : TextRecord) : Json := .obj (r.map fun (k, v) => (k, .str v))

/-- Generates a module from an interface, for the step's target. -/
def emitStep (step : Json) : SessionM Json := do
  let ffi := (textOf? step "ffi").getD "main"
  let target ← match textOf? step "target" with
    | some "python" => pure Target.python
    | some "c" => pure Target.c
    | _ => throw (refused "bad step")
  let moduleName := (textOf? step "module_name").getD "_mod"
  let preamble := (textOf? step "preamble").getD ""
  return recordDoc (← SessionM.emitModule ffi target moduleName preamble)

/-- Generates the verified module of an interface. -/
def verifyStep (step : Json) : SessionM Json := do
  let ffi := (textOf? step "ffi").getD "main"
  let preamble := (textOf? step "preamble").getD ""
  let kwds := keywordOf 100 ((step.get? "kwds").getD (.obj []))
  return recordDoc (← SessionM.verifySource ffi preamble (textOf? step "modulename") (textOf? step "tag") kwds)

/-- The document of a failure, its message scrubbed. -/
def scrubbedFailure (f : Failure) : Json := .obj [("error", .str f.kind), ("message", .str (scrub f.message))]

/-- Runs the steps in order, answering each. -/
def ffiSteps : List Json → Registers → Session → List Json
  | [], _, _ => []
  | step :: rest, regs, s =>
    let s := { s with work := { s.work with warnings := [] } }
    let run : SessionM (Datum × Json) := do
      match textOf? step "do" with
      | some "emit" => pure (.none, .single "value" (← emitStep step))
      | some "verify_source" => pure (.none, .single "value" (← verifyStep step))
      | _ =>
        let d ← ffiStep regs step
        let j ← encodeDatum d
        pure (d, .single "value" j)
    let (outcome, s') := (run.run).run s
    let regs := match outcome, textOf? step "as" with
      | .ok (v, _), some r =>
        let v := if textOf? step "do" == some "new_ffi" then Datum.ffi r else v
        (regs.filter (·.1 != r)) ++ [(r, v)]
      | _, _ => regs
    let doc := match outcome with
      | .ok (_, j) => j
      | .error f => scrubbedFailure f
    let doc := match doc, s'.work.warnings with
      | .obj fields, w :: ws => Json.obj (fields ++ [("warnings", .arr ((w :: ws).reverse.map .str))])
      | d, _ => d
    doc :: ffiSteps rest regs s'

/-- The answer to a request on foreign functions. -/
def answerFfi (req : Json) : Except Failure Json := do
  let steps ← match req.get? "steps" with
    | some (.arr steps) => pure steps
    | _ => throw badRequest
  return .obj [("steps", .arr (ffiSteps steps [] {}))]

end Basis.Protocol
