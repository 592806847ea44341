import Basis.Foreign.Extension.Tables

/-!
# The scripting-side source of a generated module

A module for the scripting side alone is one call building the interface from
byte strings: the type table as four bytes per opcode, and each table as a
tuple of byte strings, a struct or union with its members. Numbers the
scripting side cannot know (sizes and offsets only a compiler works out) have
no place in it, so an opcode whose argument is a C expression cannot be
written.
-/

namespace Basis.Foreign

/-- The index of the primitive integer type of a size and signedness. -/
def enumPrimitive (size signed : String) : Except Failure Nat :=
  match size, signed with
  | "1", "0" => pure 18 | "1", "1" => pure 17
  | "2", "0" => pure 20 | "2", "1" => pure 19
  | "4", "0" => pure 22 | "4", "1" => pure 21
  | "8", "0" => pure 24 | "8", "1" => pure 23
  | _, _ => .error (missingKey ("(" ++ size ++ ", " ++ signed ++ ")"))

/-- The byte string of a global. -/
def GlobalEntry.pyText (g : GlobalEntry) : Except Failure String := do
  return "b'" ++ (← g.op.bytes) ++ g.name ++ "'," ++ toString g.check

/-- The byte string of a member. -/
def FieldEntry.pyText (f : FieldEntry) : Except Failure String := do
  let sizeText ← match f.op.kind with
    | some .noop => pure ""
    | some .bitfield => pure (fourBytes f.bitsize)
    | _ => throw ⟨"NotImplementedError", ""⟩
  return "b'" ++ (← f.op.bytes) ++ sizeText ++ f.name ++ "'"

/-- The tuple of a struct or union and its members. -/
def RecordEntry.pyText (r : RecordEntry) : Except Failure String := do
  let flags := r.flags.foldl (fun n f => n + structFlagValue f) 0
  let fields ← r.fields.mapM FieldEntry.pyText
  return "(b'" ++ fourBytes r.typeIndex ++ fourBytes flags ++ r.name ++ "'," ++ ",".intercalate fields ++ ")"

/-- The byte string of an enum. -/
def EnumEntry.pyText (e : EnumEntry) : Except Failure String := do
  let prim ← enumPrimitive e.size e.signed
  return "b'" ++ fourBytes e.typeIndex ++ fourBytes prim ++ e.name ++ "\\x00" ++ e.enumerators ++ "'"

/-- The byte string of a type name. -/
def TypenameEntry.pyText (t : TypenameEntry) : String :=
  "b'" ++ fourBytes t.typeIndex ++ t.name ++ "'"

/-- A tuple of texts, a single item followed by a comma. -/
def pyTuple (items : List String) : String :=
  let items := if items.length == 1 then items ++ [""] else items
  "(" ++ ",".intercalate items ++ ")"

/-- Writes a module for the scripting side. `includes` are the module names
of the included interfaces, or the failure of one that cannot be included. -/
def writePySource (p : Plan) (tt : TypeTable) (tabs : Tables)
    (includes : Except Failure (List String)) : EmitM Unit := do
  EmitM.line "# auto-generated file"
  EmitM.line "import _cffi_backend"
  let mods ← EmitM.lift includes
  for (m, i) in mods.zipIdx do
    EmitM.line ("from " ++ m ++ " import ffi as _ffi" ++ toString i)
  EmitM.line
  EmitM.line ("ffi = _cffi_backend.FFI('" ++ p.moduleName ++ "',")
  EmitM.line ("    _version = 0x" ++ String.ofList (Nat.toDigits 16 (← get).version) ++ ",")
  let types ← EmitM.lift (tt.ops.toList.mapM Opcode.bytes)
  EmitM.line ("    _types = b'" ++ String.join types ++ "',")
  let tables : List (String × Except Failure (List String)) :=
    [("global", tabs.globals.mapM GlobalEntry.pyText),
     ("struct_union", tabs.records.mapM RecordEntry.pyText),
     ("enum", tabs.enums.mapM EnumEntry.pyText),
     ("typename", pure (tabs.typenames.map TypenameEntry.pyText))]
  for (step, texts) in tables do
    let texts ← EmitM.lift texts
    if !texts.isEmpty then EmitM.line ("    _" ++ step ++ "s = " ++ pyTuple texts ++ ",")
  if !mods.isEmpty then
    EmitM.line ("    _includes = (" ++ ", ".intercalate (mods.zipIdx.map fun (_, i) => "_ffi" ++ toString i) ++ ",),")
  EmitM.line ")"

end Basis.Foreign
