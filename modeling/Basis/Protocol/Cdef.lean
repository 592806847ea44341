import Basis.Foreign.Cdef
import Basis.Protocol.Encoding

/-!
# Requests on foreign declarations

A request runs steps on books of declarations, by name, `main` unless a step
names another; a book of a new name starts empty. A step reads declarations
(`parse`), reads one type (`parse_type`), or includes another book (`include`).
Reading or including answers with a snapshot of the book: its declarations by
key with their qualifiers and types, its integer constants, the first feature
needing a recent compiler, and the spellings of the types it included. A step
that issued warnings carries them in its answer.

A type is described by its class, its spelling (or the failure to spell it),
the predicates that hold of it, and the parts its class has.
-/

namespace Basis.Protocol

open Basis.Foreign

/-- Whether a document is true as a condition: not null, false, zero or empty. -/
def truthy : Json → Bool
  | .null => false
  | .bool b => b
  | .int n => n != 0
  | .float x => x != 0
  | .str s => !s.isEmpty
  | .arr items => !items.isEmpty
  | .obj members => !members.isEmpty

/-- Whether a document equals `True`. -/
def isTrue : Json → Bool
  | .bool b => b
  | .int n => n == 1
  | .float x => x == 1
  | _ => false

/-- The document of a failure. -/
def failureDoc (f : Failure) : Json := .obj [("error", .str f.kind), ("message", .str f.message)]

/-- The spelling of a type, or the document of the failure to spell it. -/
def cNameDoc (tags : Tags) (t : CType) : Json :=
  match t.cName tags with
  | .ok s => .str s
  | .error f => failureDoc f

/-- The class of a type. -/
def classOf (tags : Tags) : CType → String
  | .void => "VoidType"
  | .primitive _ => "PrimitiveType"
  | .unknownInteger _ => "UnknownIntegerType"
  | .unknownFloat _ => "UnknownFloatType"
  | .function false .. => "RawFunctionType"
  | .function true .. => "FunctionPtrType"
  | .pointer .. => "PointerType"
  | .namedPointer .. => "NamedPointerType"
  | .array .. => "ArrayType"
  | .tagged id =>
    match tags[id]?.map Tag.kind with
    | some TagKind.union => "UnionType"
    | some TagKind.enum => "EnumType"
    | _ => "StructType"

/-- The predicates that hold of a type, by name. -/
def flagsOf : CType → List String
  | .primitive n =>
    match numericOf? n with
    | some .integer => ["is_integer_type"]
    | some .character => ["is_char_type"]
    | some .floating => ["is_float_type"]
    | some .complex => ["is_complex_type"]
    | none => []
  | .unknownInteger _ => ["is_integer_type"]
  | .array .. => ["is_array_type"]
  | .function false .. => ["is_raw_function"]
  | _ => []

/-- The document of an optional text. -/
def optText : Option String → Json
  | some s => .str s
  | none => .null

/-- The document of an optional integer. -/
def optInt : Option Int → Json
  | some n => .int n
  | none => .null

/-- The document of a member of a struct or union. -/
def fieldDoc (tags : Tags) (f : Field) : Json :=
  .arr [.str f.name, cNameDoc tags f.type, .int f.bitsize, .int f.quals]

/-- The description of a type. -/
def describe (tags : Tags) (t : CType) : Except Failure Json := do
  let common := [("class", Json.str (classOf tags t)), ("c", cNameDoc tags t),
    ("flags", .arr ((flagsOf t).map .str))]
  let extra ← match t with
    | .primitive n | .unknownInteger n | .unknownFloat n => pure [("name", Json.str n)]
    | .function _ args result ellipsis abi _ =>
      pure [("args", .arr (args.map (cNameDoc tags))), ("result", cNameDoc tags result),
        ("ellipsis", .bool ellipsis), ("abi", optText abi)]
    | .pointer target quals _ => pure [("totype", cNameDoc tags target), ("quals", .int quals)]
    | .namedPointer target name quals =>
      pure [("totype", cNameDoc tags target), ("quals", .int quals), ("name", .str name)]
    | .array item length _ =>
      let len := match length with
        | .open => Json.null
        | .deferred => .str "..."
        | .fixed n => .int n
        | .measured e => .str e
      pure [("item", cNameDoc tags item), ("length", len)]
    | .tagged id =>
      match tags[id]? with
      | none => pure []
      | some tg =>
        let named := [("name", Json.str tg.name), ("forcename", optText tg.forcename),
          ("partial", .bool tg.isPartial), ("official_name", .str tg.officialName)]
        if tg.kind == .enum then
          pure (named ++ [("enumerators", .arr (tg.enumerators.map .str)),
            ("enumvalues", .arr (tg.enumvalues.map .int)), ("baseinttype", .null)])
        else
          match tg.fields with
          | none => pure (named ++ [("packed", optInt tg.packed), ("fields", .null)])
          | some fields =>
            let flat ← flatFields tags 1000 fields
            pure (named ++ [("packed", optInt tg.packed), ("fields", .arr (fields.map (fieldDoc tags))),
              ("enumfields", .arr (flat.map (fieldDoc tags)))])
    | .void => pure []
  return .obj (common ++ extra)

/-- The snapshot of a book. -/
def snapshot (tags : Tags) (b : Book) : Except Failure Json := do
  let entries := b.entries.mergeSort fun x y => compare x.1 y.1 != .gt
  let decls ← entries.mapM fun (key, e) => do
    let d ← match e.value with
      | .type t => describe tags t
      | .number n => pure (Json.int n)
      | .dots => pure (Json.str "...")
    pure (Json.arr [.str key, .int e.quals, d])
  let constants := b.intConstants.mergeSort fun x y => compare x.1 y.1 != .gt
  let included := sortWords (b.included.map (CType.spelling tags))
  return .obj [("decls", .arr decls),
    ("int_constants", .arr (constants.map fun (k, v) => .arr [.str k, .int v])),
    ("uses_new_feature", optText b.usesNewFeature),
    ("included", .arr (included.map .str))]

/-- The packing a step asks for with `packed` and `pack`. -/
def stepPacking (step : Json) : Except Failure Int := do
  let packed := (step.get? "packed").getD .null
  let pack : Int := match step.get? "pack" with
    | some (.int n) => n
    | some (.bool true) => 1
    | _ => 0
  if truthy packed && !isTrue packed then
    throw (.valueError "'packed' should be False or True; use 'pack' to give another value")
  packingOf (truthy packed) pack

/-- Runs one step on the book being worked on: its answer, or its failure. -/
def cdefStep (books : List (String × Book)) (step : Json) : DeclM Json := do
  match step.get? "parse", step.get? "parse_type", step.get? "include" with
  | some (.str source), _, _ =>
    let pack ← match stepPacking step with
      | .ok p => pure p
      | .error f => throw f
    let flag := fun (k : String) => ((step.get? k).map truthy).getD false
    parseDeclarations source (flag "override") pack (flag "dllexport")
    match snapshot (← DeclM.tags) (← DeclM.book) with
    | .ok j => pure j
    | .error f => throw f
  | _, some (.str cdecl), _ =>
    let (t, quals) ← parseTypeAndQuals cdecl
    let tags ← DeclM.tags
    let d ← match describe tags t with
      | .ok j => pure j
      | .error f => throw f
    let text := fun (k : String) => match step.get? k with
      | some (.str s) => some s
      | _ => none
    let fields := [("type", d), ("quals", Json.int quals)]
    if (text "replace_with").isSome || (text "context").isSome then
      match t.cName tags ((text "replace_with").getD "") ((text "context").getD "a C file") quals with
      | .ok s => return .obj (fields ++ [("get_c_name", .str s)])
      | .error f => throw f
    else return .obj fields
  | _, _, some (.str other) =>
    let b := (books.find? (·.1 == other)).map (·.2)
    includeBook (b.getD {})
    match snapshot (← DeclM.tags) (← DeclM.book) with
    | .ok j => pure j
    | .error f => throw f
  | _, _, _ => throw (refused "bad step")

/-- Stores a book under a name. -/
def storeBook (books : List (String × Book)) (name : String) (b : Book) : List (String × Book) :=
  if books.any (·.1 == name) then books.map fun (n, x) => if n == name then (n, b) else (n, x)
  else books ++ [(name, b)]

/-- The name of the book a step works on. -/
def parserOf (step : Json) : String :=
  match step.get? "parser" with
  | some (.str n) => n
  | _ => "main"

/-- Runs one step on the shared state and its book, a new book of its name
starting empty: the step's answer, the state after it and the books with the
step's book stored back. -/
def cdefNext (step : Json) (work : Work) (books : List (String × Book)) :
    Json × Work × List (String × Book) :=
  let name := parserOf step
  let book := ((books.find? (·.1 == name)).map (·.2)).getD {}
  let books := storeBook books name book
  let work := { work with book, warnings := [] }
  let (outcome, work) := (cdefStep books step).run.run work
  let doc := match outcome with
    | .ok (.obj fields) => Json.obj fields
    | .ok other => other
    | .error f => failureDoc f
  let doc := match doc, work.warnings with
    | .obj fields, w :: ws => Json.obj (fields ++ [("warnings", .arr ((w :: ws).reverse.map .str))])
    | d, _ => d
  (doc, work, storeBook books name work.book)

/-- Runs the steps in order on the shared state and the books. -/
def cdefSteps : List Json → Work → List (String × Book) → List Json
  | [], _, _ => []
  | step :: rest, work, books =>
    let (doc, work, books) := cdefNext step work books
    doc :: cdefSteps rest work books

/-- The answer to a request on foreign declarations. -/
def answerCdef (req : Json) : Except Failure Json := do
  let steps ← match req.get? "steps" with
    | some (.arr steps) => pure steps
    | _ => throw badRequest
  return .obj [("steps", .arr (cdefSteps steps {} []))]

end Basis.Protocol
