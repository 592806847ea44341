import Basis.Foreign.Extension.TypeTable

/-!
# The tables of a generated module

Besides the type table, a generated module lists its globals (functions,
constants, variables, enumerators), the members of its structs and unions,
its structs and unions, its enums and its type names. Each declaration adds
its entries; a struct or union that no declaration names (an anonymous one, or
the struct behind `FILE`) is added at the end under a made-up name. Every
table but the members is then sorted by name.

A struct or union is listed with its members only when its layout is known
here: not when it has no members (`opaque`) or was taken from another
interface (`external`). Its flags say whether a compiler should check the
members against the declared ones: not when some are left to the compiler
(`...;`) or when it has anonymous members.

Generation runs in `EmitM`, which keeps the warnings issued and the text
written so far when it fails.
-/

namespace Basis.Foreign

/-- The state of generating a module: the warnings issued (latest first), the
lines written, the constants written, the number of functions implemented on
the scripting side, and the version the module needs. -/
structure Emitter where
  /-- The warnings issued, latest first. -/
  warnings : List String := []
  /-- The lines written. -/
  lines : Array String := #[]
  /-- The constants written, by category and name. -/
  constants : List (String × String) := []
  /-- The number of functions implemented on the scripting side. -/
  externs : Nat := 0
  /-- The version of the module format the module needs. -/
  version : Nat := 0x2601
  deriving Inhabited

/-- Generating a module; a failure keeps the state reached. -/
abbrev EmitM := ExceptT Failure (StateM Emitter)

namespace EmitM

/-- Runs a computation that may fail. -/
def lift {α : Type} : Except Failure α → EmitM α
  | .ok a => pure a
  | .error f => throw f

/-- Issues a warning. -/
def warn (message : String) : EmitM Unit :=
  modify fun e => { e with warnings := message :: e.warnings }

/-- Writes a line. -/
def line (text : String := "") : EmitM Unit :=
  modify fun e => { e with lines := e.lines.push text }

/-- Raises the version the module needs. -/
def needsVersion (v : Nat) : EmitM Unit :=
  modify fun e => { e with version := max e.version v }

/-- Runs the generation of one declaration, its failures prefixed by its key. -/
def underKey {α : Type} (key : String) (act : EmitM α) : EmitM α :=
  tryCatch act fun f => throw { f with message := key ++ ": " ++ f.message }

end EmitM

/-- An entry of the globals: its name, the C expression of its address, its
opcode, the C expression of its size, and the value to check an integer against. -/
structure GlobalEntry where
  /-- The name. -/
  name : String
  /-- The address, in C. -/
  address : String
  /-- The opcode. -/
  op : Opcode
  /-- The size, in C. -/
  size : String := "0"
  /-- The value of an integer constant. -/
  check : Int := 0
  deriving Inhabited

/-- An entry of the members: name, offset, size (C expressions), bit width and opcode. -/
structure FieldEntry where
  /-- The name. -/
  name : String
  /-- The offset, in C. -/
  offset : String
  /-- The size, in C. -/
  size : String
  /-- The width of a bit field, `-1` otherwise. -/
  bitsize : Int
  /-- The opcode of the type. -/
  op : Opcode
  deriving Inhabited

/-- An entry of the structs and unions. -/
structure RecordEntry where
  /-- The name of the tag. -/
  name : String
  /-- The slot of the type. -/
  typeIndex : Nat
  /-- The flags, by name. -/
  flags : List String
  /-- The size, in C. -/
  size : String
  /-- The alignment, in C. -/
  align : String
  /-- Why the members are not listed. -/
  comment : Option String
  /-- The position of the first member in the members, `-1` when not listed. -/
  firstField : Int
  /-- The members listed. -/
  fields : List FieldEntry
  deriving Inhabited

/-- An entry of the enums: name, slot, size and signedness (C expressions or
numbers), and the enumerators joined by commas. -/
structure EnumEntry where
  /-- The name of the tag. -/
  name : String
  /-- The slot of the type. -/
  typeIndex : Nat
  /-- The size. -/
  size : String
  /-- Whether it is signed. -/
  signed : String
  /-- The enumerators, joined by commas. -/
  enumerators : String
  deriving Inhabited

/-- An entry of the type names. -/
structure TypenameEntry where
  /-- The name. -/
  name : String
  /-- The slot of the type. -/
  typeIndex : Nat
  deriving Inhabited

/-- The tables of a module, and the structs and unions entered so far. -/
structure Tables where
  /-- The globals. -/
  globals : List GlobalEntry := []
  /-- The members. -/
  fields : List FieldEntry := []
  /-- The structs and unions. -/
  records : List RecordEntry := []
  /-- The enums. -/
  enums : List EnumEntry := []
  /-- The type names. -/
  typenames : List TypenameEntry := []
  /-- The tags of the structs and unions entered. -/
  seen : List Nat := []
  deriving Inhabited

/-- The joined names of flags, `0` for none. -/
def flagsText (flags : List String) : String :=
  if flags.isEmpty then "0" else "|".intercalate flags

/-- The failure of a type that cannot be used because it has no members. -/
def checkNotOpaque (p : Plan) (t : CType) (location : String) : Except Failure Unit :=
  let rec strip : Nat → CType → CType
    | 0, t => t
    | n + 1, .array item .. => strip n item
    | _, t => t
  if p.isOpaqueRecord (strip 1000 t) then
    .error (.typeError (location ++ " is of an opaque type (not declared in cdef())"))
  else pure ()

namespace Tables

/-- Adds a global. -/
def addGlobal (tabs : Tables) (g : GlobalEntry) : Tables := { tabs with globals := tabs.globals ++ [g] }

/-- Adds a type name. -/
def addTypename (tabs : Tables) (name : String) (index : Nat) : Tables :=
  { tabs with typenames := tabs.typenames ++ [⟨name, index⟩] }

end Tables

/-- The entry of one member of a struct or union. -/
def fieldEntry (p : Plan) (tt : TypeTable) (t : CType) (cname : Option String)
    (namedPtr : Option String) (f : Field) : Except Failure FieldEntry := do
  let name := (p.tagOf? t).map (·.name) |>.getD ""
  let ftype ← p.fieldType t f.name f.type
  checkNotOpaque p ftype ("field '" ++ name ++ "." ++ f.name ++ "'")
  let isOpen := match ftype with
    | .array _ .open _ => true
    | _ => false
  let size ←
    if f.bitsize ≥ 0 then pure (toString f.bitsize ++ " /* bits */")
    else if cname.isNone || isOpen then pure "(size_t)-1"
    else do
      let ptr ← match namedPtr with
        | some n => pure n
        | none => p.cName t "*"
      pure ("sizeof(((" ++ ptr ++ ")0)->" ++ f.name ++ ")")
  let offset ←
    if cname.isNone || f.bitsize ≥ 0 then pure "(size_t)-1"
    else match namedPtr with
      | some n => pure ("((char *)&((" ++ n ++ ")0)->" ++ f.name ++ ") - (char *)0")
      | none => do pure ("offsetof(" ++ (← p.cName t) ++ ", " ++ f.name ++ ")")
  let kind := if f.bitsize ≥ 0 then OpKind.bitfield else .noop
  return ⟨f.name, offset, size, f.bitsize, Opcode.of kind (← tt.slot p ftype)⟩

/-- Enters a struct or union: its flags, its members when its layout is known
here, and its size and alignment. `cname` is how C names it (none for a struct
no declaration names), `approx` the word naming its helpers, and `namedPtr`
the pointer type through which alone C names it. -/
def recordEntry (p : Plan) (tt : TypeTable) (tabs : Tables) (t : CType) (cname : Option String)
    (approx : Option String) (namedPtr : Option CType) : Except Failure Tables := do
  let some tg := p.tagOf? t | throw (missingKey ("<" ++ p.spell t ++ ">"))
  let id := match t with
    | .tagged id => id
    | _ => 0
  let index ← tt.slot p t
  let ptrName := match namedPtr with
    | some (.namedPointer _ n _) => some n
    | _ => none
  let noMembers := tg.fields.isNone
  let mut flags : List String := []
  let mut reason : Option String := none
  if tg.kind == .union then flags := flags ++ ["_CFFI_F_UNION"]
  if noMembers then
    flags := flags ++ ["_CFFI_F_OPAQUE"]
    reason := some "opaque"
  let included := p.isIncluded t || (namedPtr.map p.isIncluded).getD false
  if !included then
    if !noMembers && !tg.isPartial && (p.anonymousRecords t).isEmpty then
      flags := flags ++ ["_CFFI_F_CHECK_FIELDS"]
    match tg.packed with
    | some n =>
      if n != 0 then
        if n > 1 then
          throw ⟨"NotImplementedError", "<" ++ p.spell t ++ "> is declared with 'pack=" ++ toString n ++
            "'; only 0 or 1 are supported in API mode (try to use \"...;\", which does not require a 'pack' declaration)"⟩
        flags := flags ++ ["_CFFI_F_PACKED"]
    | none => pure ()
  else
    flags := flags ++ ["_CFFI_F_EXTERNAL"]
    reason := some "external"
  match reason with
  | some why =>
    let entry : RecordEntry := ⟨tg.name, index, flags, "(size_t)-1", "-1", some why, -1, []⟩
    return { tabs with records := tabs.records ++ [entry], seen := tabs.seen ++ [id] }
  | none =>
    let fields ← p.fieldsOf t (p.target != .python)
    let entries ← fields.mapM (fieldEntry p tt t cname ptrName)
    let first : Int := tabs.fields.length
    let (size, align, comment) :=
      match cname, ptrName with
      | none, _ => ("(size_t)-2", "-2", some "unnamed")
      | some _, some n => ("sizeof(*(" ++ n ++ ")0)", "-1 /* unknown alignment */", none)
      | some c, none =>
        ("sizeof(" ++ c ++ ")", "offsetof(struct _cffi_align_" ++ approx.getD "None" ++ ", y)", none)
    let entry : RecordEntry := ⟨tg.name, index, flags, size, align, comment, first, entries⟩
    return { tabs with records := tabs.records ++ [entry], fields := tabs.fields ++ entries,
                       seen := tabs.seen ++ [id] }

/-- The size and signedness of an enum's integer type, as the scripting side
works them out, warning about an enum without values. -/
def enumBaseSize (tg : Tag) : EmitM (String × String) := do
  if tg.enumvalues.isEmpty then EmitM.warn (emptyEnumWarning tg)
  let base ← EmitM.lift (enumBaseOf tg)
  let size := if base.endsWith "long" then "8" else "4"
  let signed := if base.startsWith "unsigned" then "0" else "1"
  return (size, signed)

/-- Enters an enum and its enumerators as globals; `cname` is how C names it. -/
def enumEntry (p : Plan) (tt : TypeTable) (tabs : Tables) (t : CType) (cname : String) :
    EmitM Tables := do
  let some tg := p.tagOf? t | throw (missingKey ("<" ++ p.spell t ++ ">"))
  let index ← EmitM.lift (tt.slot p t)
  if p.target == .python && tg.isPartial then throw ⟨"VerificationMissing", tg.spelling⟩
  let tabs := (tg.enumerators.zip tg.enumvalues).foldl (fun tabs (e, v) =>
    tabs.addGlobal { name := e, address := "_cffi_const_" ++ e, op := Opcode.of .enum (-1), check := v }) tabs
  let (size, signed) ←
    if !cname.contains '$' && p.target == .c then
      pure ("sizeof(" ++ cname ++ ")", "((" ++ cname ++ ")-1) <= 0")
    else enumBaseSize tg
  let entry : EnumEntry := ⟨tg.name, index, size, signed, ",".intercalate tg.enumerators⟩
  return { tabs with enums := tabs.enums ++ [entry] }

/-- The C name of a struct or union declared by its tag, and the word naming
its helpers. -/
def recordNames (p : Plan) (t : CType) : Except Failure (String × String) := do
  let cname ← p.cName t
  if cname.contains ' ' then return (cname, cname.replace " " "_")
  else return (cname, "_" ++ cname)

/-- The type of a declaration, `void` for a macro. -/
def Entry.declaredType (e : Entry) : CType :=
  match e.value with
  | .type t => t
  | _ => .void

/-- Whether a function type takes a variable number of arguments. -/
def CType.hasEllipsis : CType → Bool
  | .function _ _ _ e _ _ => e
  | _ => false

/-- The number of arguments of a function type. -/
def CType.arity : CType → Nat
  | .function _ args .. => args.length
  | _ => 0

/-- The entry of a constant: an integer for C is checked by value, anything
else is read from the library. -/
def constantEntry (p : Plan) (tt : TypeTable) (t : CType) (name : String) : Except Failure GlobalEntry := do
  let op ←
    if p.target == .c && t.isInteger then pure (Opcode.of .constantInt (-1))
    else pure (Opcode.of (if p.target == .python then .dlopenConst else .constant) (← tt.slot p t))
  return { name, address := "_cffi_const_" ++ name, op }

/-- Enters the tables of one declaration. -/
def declEntries (p : Plan) (tt : TypeTable) (tabs : Tables) : String × Entry → EmitM Tables
  | (key, e) => EmitM.underKey key do
    let (kind, name) := splitKey key
    let t := e.declaredType
    match kind with
    | "typedef" =>
      let tp := p.typedefType name t
      let tabs := tabs.addTypename name (← EmitM.lift (tt.slot p tp))
      match p.tagOf? tp, tp with
      | some tg, _ =>
        if tg.placeholder then EmitM.lift (recordEntry p tt tabs tp (some tg.name) none none)
        else pure tabs
      | none, .namedPointer target _ _ =>
        let tname := ((p.tagOf? target).map (·.name)).getD ""
        EmitM.lift (recordEntry p tt tabs target (some tname) (some name) (some tp))
      | none, _ => pure tabs
    | "function" =>
      if t.hasEllipsis && p.target == .c then
        return tabs.addGlobal (← EmitM.lift (constantEntry p tt t name))
      let index ← EmitM.lift (tt.slot p (p.rawFunction t))
      let kind := if p.target == .python then OpKind.dlopenFunc
        else match t.arity with
          | 0 => .builtinNoArgs
          | 1 => .builtinOneArg
          | _ => .builtinVarargs
      return tabs.addGlobal { name, address := "_cffi_f_" ++ name, op := Opcode.of kind index,
                              size := "_cffi_d_" ++ name }
    | "struct" | "union" =>
      let (cname, approx) ← EmitM.lift (recordNames p t)
      EmitM.lift (recordEntry p tt tabs t (some cname) (some approx) none)
    | "anonymous" =>
      if p.isEnum t then enumEntry p tt tabs t name
      else EmitM.lift (recordEntry p tt tabs t (some name) (some ("typedef_" ++ name)) none)
    | "constant" => return tabs.addGlobal (← EmitM.lift (constantEntry p tt t name))
    | "enum" => enumEntry p tt tabs t (p.spell t)
    | "macro" =>
      let check ← match e.value with
        | .number n => pure n
        | _ =>
          if p.target == .python then
            throw (verificationError ("cannot use the syntax '...' in '#define " ++ name ++
              " ...' when using the ABI mode"))
          else pure 0
      return tabs.addGlobal { name, address := "_cffi_const_" ++ name, op := Opcode.of .constantInt (-1), check }
    | "variable" =>
      let index ← EmitM.lift (tt.slot p (p.globalType name t))
      let kind := if p.target == .python then OpKind.globalVar else .globalVarF
      return tabs.addGlobal { name, address := "_cffi_var_" ++ name, op := Opcode.of kind index }
    | _ =>
      if p.target == .python then throw (verificationError "cannot use 'extern \"Python\"' in the ABI mode")
      if t.hasEllipsis then throw ⟨"NotImplementedError", "a vararg function is extern \"Python\""⟩
      let index ← EmitM.lift (tt.slot p t)
      return tabs.addGlobal { name, address := "&_cffi_externpy__" ++ name, op := Opcode.of .externPython index,
                              size := name }

/-- Whether a text is a `$` followed by digits only. -/
def isNumberedName (name : String) : Bool :=
  name.startsWith "$" && name.length > 1 && (name.drop 1).all Char.isDigit

/-- Enters the structs and unions that no declaration entered, under made-up names. -/
def missingRecords (p : Plan) (tt : TypeTable) (tabs : Tables) : Except Failure Tables :=
  tt.records.foldlM (fun tabs (id, _) => do
    if tabs.seen.contains id then return tabs
    let t := CType.tagged id
    let some tg := p.tags[id]? | return tabs
    if tg.isPartial then
      throw ⟨"NotImplementedError", "internal inconsistency: <" ++ p.spell t ++
        "> is partial but was not seen at this point"⟩
    let (approx, tabs) ←
      if isNumberedName tg.name then pure ((tg.name.drop 1).toString, tabs)
      else if tg.name == "_IO_FILE" && tg.forcename == some "FILE" then
        pure ("FILE", tabs.addTypename "FILE" (← tt.slot p t))
      else throw ⟨"NotImplementedError", "internal inconsistency: <" ++ p.spell t ++ ">"⟩
    recordEntry p tt tabs t none (some approx) none) tabs

/-- Sorts entries by name, keeping the order of equal names. -/
def sortByName {α : Type} (name : α → String) (xs : List α) : List α :=
  xs.mergeSort fun a b => compare (name a) (name b) != .gt

/-- The tables of a module's declarations. -/
def buildTables (p : Plan) (tt : TypeTable) : EmitM Tables := do
  let tabs ← p.decls.foldlM (declEntries p tt) {}
  let tabs ← EmitM.lift (missingRecords p tt tabs)
  let tabs := { tabs with globals := sortByName (·.name) tabs.globals,
                          records := sortByName (·.name) tabs.records,
                          enums := sortByName (·.name) tabs.enums,
                          typenames := sortByName (·.name) tabs.typenames }
  if tabs.records.length != tt.records.length || tabs.enums.length != tt.enums.length then
    throw (.assertionError "")
  return tabs

end Basis.Foreign
