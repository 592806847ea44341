import Basis.Foreign.Build
import Basis.Foreign.Extension.Opcode

/-!
# The type table of a generated module

Every type the declarations use gets a slot in one table of opcodes. The
types are collected from the declarations in the order of their keys, each
type before the types it is made of, and then laid out sorted by their
spelling: first every function type, followed by a slot for each argument that
has no slot yet and a closing slot; then every other type, an array with a
length followed by a slot for that length. A function's argument that already
has a slot elsewhere gets, in the function's run, a primitive opcode or a
`NOOP` pointing to its slot.

The length of a `[...]` array is made concrete before collection: for a
member of a struct it is measured on the member, for a global on the global,
for a type definition on a value of the type; any other `[...]` array cannot
be laid out.
-/

namespace Basis.Foreign

/-- What a generated module is for: the scripting side alone, reading the
library at run time, or C compiled against the library. -/
inductive Target where
  /-- A module of the scripting side. -/
  | python
  /-- A module in C. -/
  | c
  deriving DecidableEq, Repr, Inhabited

/-- What a generated module is made from: its target and name, the table of
nominal types, the declarations sorted by key, and the types taken from other
interfaces. -/
structure Plan where
  /-- The target. -/
  target : Target
  /-- The full name of the module. -/
  moduleName : String
  /-- The structs, unions and enums. -/
  tags : Tags
  /-- The declarations, sorted by key. -/
  decls : List (String × Entry)
  /-- The types taken from other interfaces. -/
  included : List CType
  deriving Inhabited

/-- Whether a list holds a type equal to a given one as a value. -/
def memberOf (t : CType) (ts : List CType) : Bool := ts.any (CType.sameValue t)

/-- The two words of a declaration key: its kind and its name. -/
def splitKey (key : String) : String × String :=
  match key.splitOn " " with
  | kind :: rest => (kind, " ".intercalate rest)
  | [] => ("", "")

/-- The failure of recursing past the limit. -/
def recursionFailure : Failure := ⟨"RecursionError", "maximum recursion depth exceeded"⟩

/-- The failure of a key a table does not have. -/
def missingKey (key : String) : Failure := ⟨"KeyError", key⟩

/-- Prefixes a failure's message with the key of the declaration being
generated, as failures inside one declaration's generation are reported. -/
def underKey {α : Type} (key : String) (r : Except Failure α) : Except Failure α :=
  match r with
  | .ok a => .ok a
  | .error f => .error { f with message := key ++ ": " ++ f.message }

namespace Plan

/-- The tag of a nominal type. -/
def tagOf? (p : Plan) : CType → Option Tag
  | .tagged id => p.tags[id]?
  | _ => none

/-- Whether a type is a struct or union. -/
def isRecord (p : Plan) (t : CType) : Bool :=
  match p.tagOf? t with
  | some tg => tg.kind != .enum
  | none => false

/-- Whether a type is an enum. -/
def isEnum (p : Plan) (t : CType) : Bool :=
  match p.tagOf? t with
  | some tg => tg.kind == .enum
  | none => false

/-- Whether a type is a struct or union without members. -/
def isOpaqueRecord (p : Plan) (t : CType) : Bool :=
  match p.tagOf? t with
  | some tg => tg.kind != .enum && tg.fields.isNone
  | none => false

/-- Whether a type was taken from another interface. -/
def isIncluded (p : Plan) (t : CType) : Bool := memberOf t p.included

/-- The spelling of a type. -/
def spell (p : Plan) (t : CType) : String := t.spelling p.tags

/-- The spelling of a type declaring `declarator`, failing for a type C cannot name. -/
def cName (p : Plan) (t : CType) (declarator : String := "") (context : String := "a C file")
    (quals : Nat := 0) : Except Failure String :=
  CType.cName p.tags t declarator context quals

/-- The function type a function pointer points to. -/
def rawFunction (p : Plan) : CType → CType
  | .function _ args result ellipsis abi _ => CType.functionOf p.tags false args result ellipsis abi
  | t => t

/-- The members of a struct or union, its anonymous members flattened when asked. -/
def fieldsOf (p : Plan) (t : CType) (expand : Bool) : Except Failure (List Field) :=
  match p.tagOf? t with
  | some tg =>
    match tg.fields with
    | some fs => if expand then flatFields p.tags 1000 fs else pure fs
    | none => pure []
  | none => pure []

/-- The anonymous struct and union members of a struct or union. -/
def anonymousRecords (p : Plan) (t : CType) : List CType :=
  match p.tagOf? t with
  | some tg => ((tg.fields.getD []).filter fun f => f.name.isEmpty && p.isRecord f.type).map (·.type)
  | none => []

/-- The type of a member of a struct as laid out: an array of `[...]` length
gets the length measured on the member, also for arrays within it. -/
def fieldType (p : Plan) (record : CType) (name : String) : CType → Except Failure CType
  | .array item length _ => do
    let length ← match length with
      | .deferred => do
        let ptr ← p.cName record "*"
        pure (.measured ("_cffi_array_len(((" ++ ptr ++ ")0)->" ++ name ++ ")"))
      | l => pure l
    let item ← p.fieldType record (name ++ "[0]") item
    return CType.arrayOf p.tags item length
  | t => pure t

/-- The type of a global as laid out: an array of `[...]` length gets the
length measured on the global, also for arrays within it. -/
def globalType (p : Plan) (name : String) : CType → CType
  | .array item length _ =>
    let length := match length with
      | .deferred => ArrayLength.measured ("_cffi_array_len(" ++ name ++ ")")
      | l => l
    CType.arrayOf p.tags (p.globalType (name ++ "[0]") item) length
  | t => t

/-- The type of a type definition as laid out, measured on a value of the type. -/
def typedefType (p : Plan) (name : String) (t : CType) : CType :=
  p.globalType ("(*(" ++ name ++ " *)0)") t

/-- Adds a type and the types it is made of to the types collected, each type
before its parts, at most `fuel` levels deep. The members of a struct or union
count as its parts unless it was taken from another interface. -/
def collect (p : Plan) : Nat → CType → List CType → Except Failure (List CType)
  | 0, _, _ => .error recursionFailure
  | fuel + 1, t, acc =>
    if memberOf t acc then pure acc
    else
      let acc := acc ++ [t]
      match t with
      | .function true .. => p.collect fuel (p.rawFunction t) acc
      | .function false args result .. => do
        let acc ← args.foldlM (fun acc a => p.collect fuel a acc) acc
        p.collect fuel result acc
      | .pointer target .. | .namedPointer target .. => p.collect fuel target acc
      | .array item .. => p.collect fuel item acc
      | .tagged _ =>
        match p.tagOf? t with
        | some tg =>
          match tg.kind, tg.fields with
          | .enum, _ | _, none => pure acc
          | _, some _ =>
            if p.isIncluded t then pure acc
            else do
              let fields ← p.fieldsOf t true
              fields.foldlM (fun acc f => do p.collect fuel (← p.fieldType t f.name f.type) acc) acc
        | none => pure acc
      | _ => pure acc

/-- Collects a struct or union; for the scripting side also its anonymous
members, recursively, at most `fuel` levels deep. -/
def collectRecord (p : Plan) : Nat → CType → List CType → Except Failure (List CType)
  | 0, _, _ => .error recursionFailure
  | fuel + 1, t, acc => do
    let acc ← p.collect 1000 t acc
    if p.target == .python then
      (p.anonymousRecords t).foldlM (fun acc r => p.collectRecord fuel r acc) acc
    else pure acc

/-- Whether a type is an integer type. -/
def isIntegerType (t : CType) : Bool := t.isInteger

/-- Collects the types of one declaration. -/
def collectDecl (p : Plan) (acc : List CType) : String × Entry → Except Failure (List CType)
  | (key, e) =>
    let (kind, name) := splitKey key
    let t := match e.value with
      | .type t => t
      | _ => .void
    let known := ["typedef", "function", "struct", "union", "anonymous", "constant", "enum",
      "variable", "macro", "extern_python", "dllexport_python", "extern_python_plus_c"]
    if !known.contains kind then
      .error (verificationError ("not implemented in recompile(): " ++ Value.strRepr key))
    else underKey key <| match kind with
      | "typedef" => p.collect 1000 (p.typedefType name t) acc
      | "function" => do
        let acc ← p.collect 1000 (p.rawFunction t) acc
        match t with
        | .function _ _ _ true _ _ => if p.target == .c then p.collect 1000 t acc else pure acc
        | _ => pure acc
      | "struct" | "union" => p.collectRecord 1000 t acc
      | "anonymous" => if p.isEnum t then p.collect 1000 t acc else p.collectRecord 1000 t acc
      | "constant" =>
        if !t.isInteger || p.target == .python then p.collect 1000 t acc else pure acc
      | "enum" => p.collect 1000 t acc
      | "variable" => p.collect 1000 (p.globalType name t) acc
      | "macro" => pure acc
      | _ => p.collect 1000 t acc

/-- All the types the declarations use, in the order collected. -/
def collectAll (p : Plan) : Except Failure (List CType) :=
  p.decls.foldlM p.collectDecl []

end Plan

/-- A slot of the type table before its opcode is known. -/
inductive Cell where
  /-- The slot of a type. -/
  | type (t : CType)
  /-- The closing slot of a function type's run. -/
  | stop
  /-- The length of the array in the slot before. -/
  | length
  deriving Inhabited

/-- The type table: the types collected, sorted, with their slots; the opcodes;
and the positions of structs and unions, and of enums, in their own tables. -/
structure TypeTable where
  /-- The types, sorted by spelling. -/
  types : List CType
  /-- The slot of each type. -/
  slots : List (CType × Nat)
  /-- The opcodes. -/
  ops : Array Opcode
  /-- The position of each struct and union, by tag. -/
  records : List (Nat × Nat)
  /-- The position of each enum, by tag. -/
  enums : List (Nat × Nat)
  deriving Inhabited

namespace TypeTable

/-- The slot of a type. -/
def slotOf? (tt : TypeTable) (t : CType) : Option Nat :=
  (tt.slots.find? fun s => CType.sameValue s.1 t).map (·.2)

/-- The slot of a type, failing for a type not collected. -/
def slot (p : Plan) (tt : TypeTable) (t : CType) : Except Failure Nat :=
  match tt.slotOf? t with
  | some i => pure i
  | none => .error (missingKey ("<" ++ p.spell t ++ ">"))

/-- The type in a slot, if the slot is the type's own. -/
def typeAt? (tt : TypeTable) (i : Nat) : Option CType :=
  (tt.slots.find? (·.2 == i)).map (·.1)

end TypeTable

/-- The opcode of a primitive type. -/
def primitiveOp (name : String) : Opcode := Opcode.of .primitive ((primitiveIndex.lookup name).getD 0)

/-- Lays out an argument in a function's run: a slot holding it, which is the
argument's own unless its type has a slot already. -/
def layoutArgument (st : Array Cell × List (CType × Nat)) (a : CType) : Array Cell × List (CType × Nat) :=
  (st.1.push (.type a), if memberOf a (st.2.map (·.1)) then st.2 else st.2 ++ [(a, st.1.size)])

/-- Lays out a function type: its own slot, a slot per argument and a closing slot. -/
def layoutFunction (st : Array Cell × List (CType × Nat)) (t : CType) : Array Cell × List (CType × Nat) :=
  match t with
  | .function false args .. =>
    let st := args.foldl layoutArgument (st.1.push (.type t), st.2 ++ [(t, st.1.size)])
    (st.1.push .stop, st.2)
  | _ => st

/-- Lays out a type that is not a function type and has no slot yet: its own
slot, and after an array with a length a slot for the length. -/
def layoutOther (st : Array Cell × List (CType × Nat)) (t : CType) : Array Cell × List (CType × Nat) :=
  if t.isRawFunction || memberOf t (st.2.map (·.1)) then st
  else
    let st := (st.1.push (.type t), st.2 ++ [(t, st.1.size)])
    match t with
    | .array _ .open _ => st
    | .array .. => (st.1.push .length, st.2)
    | _ => st

/-- The slots of the table: function types with their runs first, then the
other types, with the slot of each type. -/
def layoutCells (types : List CType) : Array Cell × List (CType × Nat) :=
  types.foldl layoutOther (types.foldl layoutFunction (#[], []))

/-- The positions of the given tags sorted by name, stably. -/
def positionsByName (tags : Tags) (ids : List Nat) : List (Nat × Nat) :=
  let name := fun (id : Nat) => (tags[id]?.map (·.name)).getD ""
  let sorted := ids.mergeSort fun a b => compare (name a) (name b) != .gt
  sorted.zipIdx

/-- The text of an array length in its length slot. -/
def lengthText : ArrayLength → String
  | .fixed n => toString n
  | .measured e => e
  | .open => "None"
  | .deferred => "..."

/-- The C expression a compiler works out to the primitive index of an integer
type whose size only it knows. -/
def unknownIntegerIndex (n : String) : String :=
  "_cffi_prim_int(sizeof(" ++ n ++ "), (\n           ((" ++ n ++ ")-1) | 0 /* check that " ++
    n ++ " is an integer type */\n         ) <= 0)"

/-- The C expression a compiler works out to the primitive index of a floating
type whose size only it knows. -/
def unknownFloatIndex (n : String) : String :=
  "_cffi_prim_float(sizeof(" ++ n ++ ") *\n           (((" ++ n ++
    ")1) / 2) * 2 /* integer => 0, float => 1 */\n         )"

/-- The opcode in a function's run for an argument whose own slot is elsewhere:
a primitive is repeated, any other type points to its slot. -/
def argumentOp (a : CType) (real : Nat) : Opcode :=
  match a with
  | .primitive n => primitiveOp n
  | _ => Opcode.of .noop real

/-- The flags of a function's closing slot: 1 for an ellipsis, 2 for `__stdcall`. -/
def functionFlags (ellipsis : Bool) (abi : Option String) : Except Failure Nat :=
  match abi with
  | none => pure (if ellipsis then 1 else 0)
  | some "__stdcall" => pure ((if ellipsis then 1 else 0) + 2)
  | some a => throw ⟨"NotImplementedError", "abi=" ++ Value.strRepr a⟩

/-- The opcodes of a function's arguments in its run from slot `i` on; an
argument whose own slot is the one it gets in the run is left to its type. -/
def argumentWrites (p : Plan) (tt : TypeTable) : List CType → Nat → Except Failure (List (Nat × Opcode))
  | [], _ => pure []
  | a :: as, i => do
    let real ← tt.slot p a
    let rest ← argumentWrites p tt as (i + 1)
    return if i == real then rest else (i, argumentOp a real) :: rest

/-- The opcodes of one type, each with the slot it goes to: its own slot, and
for a function type its run up to the closing slot, for an array with a length
the slot after it. -/
def typeWrites (p : Plan) (tt : TypeTable) (t : CType) : Except Failure (List (Nat × Opcode)) := do
  let index ← tt.slot p t
  match t with
  | .void => return [(index, Opcode.of .primitive 0)]
  | .primitive n => return [(index, primitiveOp n)]
  | .unknownInteger n => return [(index, ⟨some .primitive, .expr (unknownIntegerIndex n)⟩)]
  | .unknownFloat n => return [(index, ⟨some .primitive, .expr (unknownFloatIndex n)⟩)]
  | .function false args result ellipsis abi _ =>
    let head := (index, Opcode.of .function (← tt.slot p result))
    let run ← argumentWrites p tt args (index + 1)
    let flags ← functionFlags ellipsis abi
    return head :: run ++ [(index + 1 + args.length, Opcode.of .functionEnd flags)]
  | .function true .. => return [(index, Opcode.of .pointer (← tt.slot p (p.rawFunction t)))]
  | .pointer target .. | .namedPointer target .. =>
    return [(index, Opcode.of .pointer (← tt.slot p target))]
  | .array item length _ =>
    let itemSlot ← tt.slot p item
    match length with
    | .open => return [(index, Opcode.of .openArray itemSlot)]
    | .deferred =>
      throw (verificationError ("type <" ++ (p.spell t).replace "/*...*/" "..." ++
        "> badly placed: the '...' array length can only be used on global arrays or on fields of structures"))
    | l => return [(index, Opcode.of .array itemSlot), (index + 1, ⟨none, .expr (lengthText l)⟩)]
  | .tagged id =>
    if p.isEnum t then return [(index, Opcode.of .enum ((tt.enums.lookup id).getD 0))]
    else return [(index, Opcode.of .structUnion ((tt.records.lookup id).getD 0))]

/-- Writes the opcodes of one type at their slots. -/
def emitType (p : Plan) (tt : TypeTable) (ops : Array Opcode) (t : CType) :
    Except Failure (Array Opcode) := do
  let writes ← typeWrites p tt t
  return writes.foldl (fun ops w => ops.set! w.1 w.2) ops

/-- Whether a type can stand as an argument in a function's run: arrays and
function types cannot, as the reading of declarations makes them pointers. -/
def CType.isArgument : CType → Bool
  | .array .. | .function false .. => false
  | _ => true

/-- Whether every function type's arguments can stand in its run. -/
def argumentsFit (types : List CType) : Bool :=
  types.all fun t =>
    match t with
    | .function false args .. => args.all CType.isArgument
    | _ => true

/-- Collects the types of the declarations and lays out their table. -/
def buildTypeTable (p : Plan) : Except Failure TypeTable := do
  let collected ← p.collectAll
  let key := fun (t : CType) => "<" ++ p.spell t ++ ">"
  let types := collected.mergeSort fun a b => compare (key a) (key b) != .gt
  if !argumentsFit types then throw (.assertionError "")
  let (cells, slots) := layoutCells types
  let ids := fun (keep : CType → Bool) => types.filterMap fun t =>
    match t with
    | .tagged id => if keep t then some id else none
    | _ => none
  let tt : TypeTable := { types := types, slots := slots, ops := Array.replicate cells.size default
                          records := positionsByName p.tags (ids p.isRecord)
                          enums := positionsByName p.tags (ids p.isEnum) }
  let ops ← types.foldlM (emitType p tt) tt.ops
  return { tt with ops }

end Basis.Foreign
