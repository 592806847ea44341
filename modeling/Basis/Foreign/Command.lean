import Basis.Foreign.Operate
import Basis.Foreign.Cdef
import Basis.Text.Blank
import Basis.Text.Lines

/-!
# The methods of an interface

`SessionM.runMethod` runs a method of an interface on arguments, after binding
them to the method's parameters:

* declarations: `cdef` and `embedding_api` read declarations (the second marks
  them exported), `include` takes another interface's types, `set_unicode`
  declares the Windows character types once, `list_types` names the typedefs,
  structs and unions;
* types: `typeof`, `sizeof`, `alignof`, `offsetof` and `getctype` answer on a
  type text or a class, and on C data where the class of the data serves;
* data: `new` allocates, `cast` converts, `string` reads characters,
  `addressof` takes the address of a struct, a union or one of their members,
  `callback` makes C functions of functions of the scripting side;
* libraries: `dlopen` opens the C library of the process, `dlclose` fails to
  close it;
* the rest records what a compiled module would be made of (`set_source`,
  `embedding_init_code`), runs a function once per tag (`init_once`), or
  fails the way an interface without a compiled backend fails.

A struct or union whose members are declared after its class was completed is
completed again once the declarations have been read.
-/

namespace Basis.Foreign

namespace SessionM

/-- The arguments bound to a method's parameters after the receiver. -/
def bindMethod (name : String) (params : List String) (defaults : Nat) (args : List Datum)
    (kwargs : List (String × Datum)) (varArgs varKeywords : Bool) :
    SessionM (List (Option Datum) × List Datum × List (String × Datum)) := do
  let sig : Signature := { name, params := "self" :: params, defaults, varArgs, varKeywords }
  match sig.bind (Datum.none :: args) kwargs with
  | .ok b => pure (b.positional.drop 1, b.extraArgs, b.extraKeywords)
  | .error f => throw f

/-- The failure of an attribute the C types backend does not have. -/
def noBackendAttribute (attr : String) : Failure :=
  .attributeError ("'CTypesBackend' object has no attribute '" ++ attr ++ "'")

/-- The failure of a class test on something that is not a class. -/
def notAClass : Failure := .typeError "issubclass() arg 1 must be a class"

/-- The class a type argument names: a type text read in the interface, or a class itself. -/
def classArg? (ffi : String) (d : Datum) (asPointer : Bool := false) : SessionM (Option CClass) := do
  match d with
  | .plain (.str s) => return some (← typeOf ffi s asPointer)
  | .ctype c => return some c
  | _ => return none

/-- The qualified name of the type of a datum, as `type()` prints it. -/
def qualifiedType (d : Datum) : SessionM String := do
  match d with
  | .ffi _ => pure "cffi.api.FFI"
  | .library _ => pure "cffi.api.FFILibrary"
  | .cdata c => pure ("ffi." ++ (← className c.cls))
  | other => typeName other

/-- The integer of an argument that must be one. -/
def intArg (d : Datum) : SessionM Int := do
  match d with
  | .plain (.int n) => pure n
  | .plain (.bool b) => pure (if b then 1 else 0)
  | other => throw (.typeError ("'" ++ (← typeName other) ++ "' object cannot be interpreted as an integer"))

/-- The structs and unions whose members were declared since `before`, and
whose classes were completed: they are marked to complete again. -/
def markRecomplete (ffi : String) (before : Tags) : SessionM Unit := do
  let after ← tags
  let mut ids := []
  for i in List.range after.size do
    let was := match before[i]? with
      | some t => t.fields.isSome
      | none => false
    let now := match after[i]? with
      | some t => t.fields.isSome && t.kind != .enum
      | none => false
    if now && !was then
      match ← record? i with
      | some r =>
        if r.completion != 0 then
          setRecord i { r with completion := 0 }
          ids := ids ++ [i]
      | none => pure ()
  modifyInterface ffi fun i => { i with recomplete := i.recomplete ++ ids }

/-- Completes again the structs and unions marked for it. -/
def recompleteMarked (ffi : String) : SessionM Unit := do
  let ids := (← interface ffi).recomplete
  if ids.isEmpty then return
  modifyInterface ffi fun i => { i with recomplete := [] }
  let saved := (← get).pending
  modify fun s => { s with pending := ids.map CType.tagged }
  tryFinally (finishPending classFuel ffi) (modify fun s => { s with pending := saved })

/-- Reads declarations into an interface. -/
def readDeclarations (ffi : String) (csource : Datum) (override packed pack : Datum) (dllexport : Bool) :
    SessionM Unit := do
  let src ← match csource with
    | .plain (.str s) => pure s
    | _ => throw (.typeError "cdef() argument must be a string")
  let isPacked ← truthy packed
  if isPacked && !(match packed with
      | .plain (.bool true) | .plain (.int 1) => true
      | _ => false) then
    throw (.valueError "'packed' should be False or True; use 'pack' to give another value")
  let packValue : Int ← if (← truthy pack) then intArg pack else pure 0
  let packing ← match packingOf isPacked packValue with
    | .ok p => pure p
    | .error f => throw f
  let doOverride ← truthy override
  let before ← tags
  tryFinally (declaring ffi (parseDeclarations src doOverride packing dllexport)) (markRecomplete ffi before)
  modifyInterface ffi fun i => { i with sources := i.sources ++ [src] }
  if doOverride then
    modify fun s => { s with libraries := s.libraries.map fun l =>
      if l.ffi == ffi then { l with loaded := [] } else l }
  recompleteMarked ffi

/-- The size of the data a datum has, or of a class. -/
def sizeOfDatum (d : Datum) : SessionM Nat := do
  match d with
  | .ctype c => sizeOfClass c
  | .cdata (.array c _ n _) =>
    let item := match c with
      | .array i _ => i
      | other => other
    return n * (← sizeOfClass item)
  | .cdata (.pointer ..) | .cdata (.function ..) => pure pointerSize
  | .cdata x => sizeOfClass x.cls
  | _ => throw notAClass

/-- The class of a member or item, and its offset, one step into a class;
`first` tells whether a pointer class stands for what it points to. -/
def offsetStep (c : CClass) (field : Datum) (first : Bool) : SessionM (CClass × Int) := do
  match field with
  | .plain (.str name) =>
    let c ← match c, first with
      | .pointer item, true => pure item
      | .function .., true => throw (← noClassAttribute c "_BItem")
      | _, _ => pure c
    match c with
    | .record id =>
      let some r ← record? id | throw (.typeError "expected a struct or union ctype")
      if r.members.isNone && r.memberClasses.isEmpty then throw (← noClassAttribute c "_bfield_types")
      match r.memberClasses.reverse.find? (·.1 == name) with
      | none => throw (.keyError ("'" ++ name ++ "'"))
      | some (_, none) => throw (.typeError "not supported for bitfields")
      | some (_, some fc) =>
        match ← member? id name with
        | some m => pure (fc, m.place.offset)
        | none => pure (fc, 0)
    | _ => throw (.typeError "expected a struct or union ctype")
  | .plain (.int _) | .plain (.bool _) =>
    let n := (indexOf? field).getD 0
    let c := match c with
      | .array item _ => CClass.pointer item
      | other => other
    match c with
    | .pointer item =>
      let offset := (← sizeOfClass item) * n
      if offset > Nat.pow 2 63 - 1 then throw ⟨"OverflowError", ""⟩
      pure (item, offset)
    | .function .. => throw (← noClassAttribute c "_BItem")
    | _ => throw (.typeError "expected an array or ptr ctype")
  | other => throw (.typeError ("<class '" ++ (← typeName other) ++ "'>"))

/-- The class and offset a path of members and items leads to from a class. -/
def offsetPath (c : CClass) (fields : List Datum) : SessionM (CClass × Int) := do
  match fields with
  | [] => throw (.typeError "FFI._typeoffsetof() missing 1 required positional argument: 'field_or_index'")
  | f :: rest =>
    let (c, off) ← offsetStep c f true
    rest.foldlM (fun (c, off) f => do
      let (c', o) ← offsetStep c f false
      pure (c', off + o)) (c, off)

/-- The characters or enumerator name `string()` reads from C data. -/
def stringOf (d : Datum) (maxlen : Int) : SessionM Datum := do
  let refuse : SessionM Datum := do throw (.typeError ("string(): " ++ (← datumRepr d)))
  match d with
  | .cdata (.value (.enum id) v) =>
    let n := (v.int?).getD 0
    match ← enumerator? id n with
    | some name => pure (.str name)
    | none => pure (.str (toString n))
  | .cdata (.value c v) =>
    let (_, p) ← primitiveFor c
    match p.holding, v with
    | .character, .byte b => pure (.bytes [b])
    | .byte, _ => pure (.str (String.singleton (Char.ofNat (((v.int?).getD 0) % 256).toNat)))
    | _, _ => refuse
  | .cdata (.pointer (.pointer item) a _) =>
    if !item.isByteItem then return ← refuse
    if a == 0 then throw (.valueError "NULL pointer access")
    let limit := if maxlen < 0 then none else some maxlen.toNat
    pure (.bytes (← cString (a % Int.pow 2 64).toNat limit))
  | .cdata (.array (.array item _) a n _) =>
    if !item.isByteItem then return ← refuse
    let limit := if maxlen < 0 then n else maxlen.toNat
    pure (.bytes (← cString a (some limit)))
  | .cdata _ => refuse
  | other => throw (← noAttribute other "_to_string")

/-- The kind a class reports, for taking addresses. -/
def kindOf (d : Datum) : SessionM String := do
  match d with
  | .cdata (.value c _) =>
    match c with
    | .enum _ => pure "enum"
    | _ =>
      let (_, p) ← primitiveFor c
      pure (match p.holding with
        | .character => "char"
        | .byte => "byte"
        | .truth => "bool"
        | .floating => "float"
        | .integer => "int")
  | .cdata (.record (.record id) _) =>
    let some r ← record? id | pure "struct"
    pure (if r.union then "union" else "struct")
  | .cdata (.pointer ..) | .cdata (.function ..) => pure "pointer"
  | .cdata x => throw (← noClassAttribute x.cls "kind")
  | other => throw (.attributeError ("type object '" ++ (← typeName other) ++ "' has no attribute 'kind'"))

/-- The address of C data, or of a member or item within it. -/
def addressOf (d : Datum) (fields : List Datum) : SessionM Datum := do
  let (c, offset) ← match d, fields with
    | _, [] =>
      let k ← kindOf d
      if k == "pointer" then throw (.typeError "addressof(pointer)")
      match d with
      | .cdata x => pure (x.cls, (0 : Int))
      | _ => pure (.void, 0)
    | .cdata x, _ => offsetPath x.cls fields
    | _, f :: _ =>
      match f with
      | .plain (.str _) => throw (.typeError "expected a struct or union ctype")
      | .plain (.int _) | .plain (.bool _) => throw (.typeError "expected an array or ptr ctype")
      | other => throw (.typeError ("<class '" ++ (← typeName other) ++ "'>"))
  let base ← match d with
    | .cdata (.record _ a) => pure (a : Int)
    | .cdata (.pointer (.pointer (.record _)) a _) =>
      if fields.isEmpty then throw (.typeError "unexpected cdata type") else pure a
    | .cdata (.pointer ..) | .cdata (.function ..) => throw (.typeError "unexpected cdata type")
    | .cdata (.array ..) => throw (.typeError "")
    | _ => throw (.typeError "expected a <cdata 'struct-or-union'>")
  return .cdata (.pointer (.pointer c) (base + offset) false)

/-- Drops the blank lines a text starts with and the indentation its lines share. -/
def dedentSource (src : String) : String :=
  let cs := src.toList
  let lead := cs.takeWhile Text.isBlank
  let cut := match (lead.reverse.findIdx? (· == '\n')) with
    | some j => lead.length - j
    | none => 0
  let rest := String.ofList (cs.drop cut)
  let lines := match Text.splitLines rest with
    | [] => [""]
    | ls => ls
  let first := (lines.headD "").toList.takeWhile Text.isBlank
  let shared := (lines.drop 1).foldl (fun (pre : List Char) (line : String) =>
    if (line.toList.reverse.dropWhile Text.isBlank).isEmpty then pre
    else
      let common := (pre.zip line.toList).takeWhile (fun (a, b) => a == b) |>.length
      pre.take common) first
  String.join (lines.map fun l => String.ofList (l.toList.drop shared.length) ++ "\n")

/-- The declarations the Windows character types get, wide or narrow. -/
def unicodeDeclarations (wide : Bool) : String :=
  if wide then
    "typedef wchar_t TBYTE;typedef wchar_t TCHAR;typedef const wchar_t *LPCTSTR;" ++
    "typedef const wchar_t *PCTSTR;typedef wchar_t *LPTSTR;typedef wchar_t *PTSTR;" ++
    "typedef TBYTE *PTBYTE;typedef TCHAR *PTCHAR;"
  else
    "typedef char TBYTE;typedef char TCHAR;typedef const char *LPCTSTR;" ++
    "typedef const char *PCTSTR;typedef char *LPTSTR;typedef char *PTSTR;" ++
    "typedef TBYTE *PTBYTE;typedef TCHAR *PTCHAR;"

/-- The names of the typedefs, structs and unions of an interface, each sorted. -/
def typeNames (ffi : String) : SessionM Datum := do
  let keys := (← interface ffi).book.entries.map (·.1)
  let after := fun (word : String) => (keys.filter (·.startsWith word)).map fun k => (k.drop word.length).toString
  let sorted := fun (xs : List String) => xs.mergeSort fun a b => compare a b != .gt
  return .tuple [.list ((sorted (after "typedef ")).map .str), .list ((sorted (after "struct ")).map .str),
    .list ((sorted (after "union ")).map .str)]

/-- Opens a library by name; only the C library of the process (no name) opens. -/
def openLibrary (ffi : String) (name : Datum) : SessionM Datum := do
  match name with
  | .plain .none =>
    let s ← get
    set { s with libraries := s.libraries.push { ffi } }
    return .library s.libraries.size
  | .plain (.str n) =>
    let notFound := "ctypes.util.find_library() did not manage to locate a library called '" ++ n ++ "'"
    if n.contains '.' || n.contains '/' then
      throw ⟨"OSError", n ++ ": cannot open shared object file: No such file or directory.  Additionally, " ++
        notFound⟩
    throw ⟨"OSError", notFound⟩
  | _ => throw (.assertionError "")

/-- Runs a method of an interface. -/
def runMethod (ffi : String) (method : String) (args : List Datum) (kwargs : List (String × Datum)) :
    SessionM Datum := do
  let bindAs := fun (params : List String) (defaults : Nat) =>
    bindMethod ("FFI." ++ method) params defaults args kwargs false false
  let at_ := fun (xs : List (Option Datum)) (i : Nat) => (xs[i]?.getD none).getD Datum.none
  match method with
  | "cdef" =>
    let (ps, _, _) ← bindAs ["csource", "override", "packed", "pack"] 3
    readDeclarations ffi (at_ ps 0) (at_ ps 1) (at_ ps 2) (at_ ps 3) false
    pure .none
  | "embedding_api" =>
    let (ps, _, _) ← bindAs ["csource", "packed", "pack"] 2
    readDeclarations ffi (at_ ps 0) .none (at_ ps 1) (at_ ps 2) true
    if (← interface ffi).embedding.isNone then
      modifyInterface ffi fun i => { i with embedding := some "" }
    pure .none
  | "embedding_init_code" =>
    let (ps, _, _) ← bindAs ["pysource"] 0
    if !((← interface ffi).embedding.getD "").isEmpty then
      throw (.valueError "embedding_init_code() can only be called once")
    let src ← match at_ ps 0 with
      | .plain (.str s) => pure s
      | other => throw (.typeError ("expected string or bytes-like object, got '" ++ (← typeName other) ++ "'"))
    modifyInterface ffi fun i => { i with embedding := some (dedentSource src) }
    pure .none
  | "typeof" =>
    let (ps, _, _) ← bindAs ["cdecl"] 0
    match at_ ps 0 with
    | .plain (.str s) => return .ctype (← typeOf ffi s)
    | .cdata x => return .ctype x.cls
    | other => throw (.typeError ("<class '" ++ (← qualifiedType other) ++ "'>"))
  | "sizeof" =>
    let (ps, _, _) ← bindAs ["cdecl"] 0
    match at_ ps 0 with
    | .plain (.str s) => return .int (← sizeOfClass (← typeOf ffi s))
    | other => return .int (← sizeOfDatum other)
  | "alignof" =>
    let (ps, _, _) ← bindAs ["cdecl"] 0
    match ← classArg? ffi (at_ ps 0) with
    | some c => return .int (← alignOfClass c)
    | none => throw notAClass
  | "offsetof" =>
    let (ps, extra, _) ← bindMethod "FFI.offsetof" ["cdecl"] 0 args kwargs true false
    match ← classArg? ffi (at_ ps 0) with
    | some c => return .int (← offsetPath c extra).2
    | none =>
      if extra.isEmpty then
        throw (.typeError "FFI._typeoffsetof() missing 1 required positional argument: 'field_or_index'")
      throw notAClass
  | "new" =>
    let (ps, _, _) ← bindAs ["cdecl", "init"] 1
    match ← classArg? ffi (at_ ps 0) with
    | some c => return .cdata (← allocateData c (at_ ps 1))
    | none => throw notAClass
  | "new_allocator" =>
    let _ ← bindAs ["alloc", "free", "should_clear_after_alloc"] 3
    throw (noBackendAttribute "FFI")
  | "cast" =>
    let (ps, _, _) ← bindAs ["cdecl", "source"] 0
    match ← classArg? ffi (at_ ps 0) with
    | some c => return .cdata (← castData c (at_ ps 1))
    | none =>
      match at_ ps 0 with
      | .cdata x => return .cdata (← castData x.cls (at_ ps 1))
      | other => throw (← noAttribute other "_cast_from")
  | "string" =>
    let (ps, _, _) ← bindAs ["cdata", "maxlen"] 1
    let maxlen ← match ps[1]?.getD none with
      | some m => intArg m
      | none => pure (-1)
    stringOf (at_ ps 0) maxlen
  | "unpack" =>
    let _ ← bindAs ["cdata", "length"] 0
    throw (noBackendAttribute "unpack")
  | "from_buffer" =>
    let (ps, _, _) ← bindAs ["cdecl", "python_buffer", "require_writable"] 2
    if (ps[1]?.getD none).isSome then
      let _ ← classArg? ffi (at_ ps 0)
    throw (noBackendAttribute "from_buffer")
  | "memmove" =>
    let _ ← bindAs ["dest", "src", "n"] 0
    throw (noBackendAttribute "memmove")
  | "callback" =>
    let (ps, _, _) ← bindAs ["cdecl", "python_callable", "error", "onerror"] 3
    let c ← match ← classArg? ffi (at_ ps 0) true with
      | some c => pure c
      | none => throw (.typeError ("'" ++ (← typeName (at_ ps 0)) ++ "' object is not callable"))
    let fn := at_ ps 1
    if fn.isNone then return .decorator c (at_ ps 2) (at_ ps 3)
    return .cdata (← makeCallback c fn (at_ ps 2) (at_ ps 3))
  | "getctype" =>
    let (ps, _, _) ← bindAs ["cdecl", "replace_with"] 1
    let c? ← classArg? ffi (at_ ps 0)
    let replaceArg : Option Datum := ps[1]?.getD none
    let replace ← match replaceArg with
      | none => pure ""
      | some (.plain (.str r)) => pure r
      | some other => throw (← noAttribute other "strip")
    let replace := String.ofList ((replace.toList.dropWhile Text.isBlank).reverse.dropWhile Text.isBlank).reverse
    let c ← match c?, at_ ps 0 with
      | some c, _ => pure c
      | none, .cdata x => pure x.cls
      | none, other => throw (← noAttribute other "_get_c_name")
    let replace :=
      if replace.startsWith "*" && ((c.reference (← namer)).splitOn "&[").length > 1 then "(" ++ replace ++ ")"
      else if !replace.isEmpty && !(replace.startsWith "[" || replace.startsWith "(") then " " ++ replace
      else replace
    return .str (← cName c replace)
  | "addressof" =>
    let (ps, extra, _) ← bindMethod "FFI.addressof" ["cdata"] 0 args kwargs true false
    addressOf (at_ ps 0) extra
  | "include" =>
    let (ps, _, _) ← bindAs ["ffi_to_include"] 0
    match at_ ps 0 with
    | .ffi other =>
      if other == ffi then throw (.valueError "self.include(self)")
      let o ← interface other
      declaring ffi (includeBook o.book)
      modifyInterface ffi fun i =>
        { i with sources := i.sources ++ ["["] ++ o.sources ++ ["]"], includes := i.includes ++ [other] }
      pure .none
    | other =>
      throw (.typeError ("ffi.include() expects an argument that is also of type cffi.FFI, not '" ++
        (← typeName other) ++ "'"))
  | "new_handle" =>
    let _ ← bindAs ["x"] 0
    throw (noBackendAttribute "newp_handle")
  | "from_handle" =>
    let _ ← bindAs ["x"] 0
    throw (noBackendAttribute "from_handle")
  | "release" =>
    let _ ← bindAs ["x"] 0
    throw (noBackendAttribute "release")
  | "set_unicode" =>
    let (ps, _, _) ← bindAs ["enabled_flag"] 0
    if (← interface ffi).unicode.isSome then throw (.valueError "set_unicode() can only be called once")
    let wide ← truthy (at_ ps 0)
    readDeclarations ffi (.str (unicodeDeclarations wide)) .none .none .none false
    modifyInterface ffi fun i => { i with unicode := some wide }
    pure .none
  | "set_source" =>
    let (ps, _, _) ← bindMethod "FFI.set_source" ["module_name", "source", "source_extension"] 1 args kwargs
      false true
    if (← interface ffi).assigned.isSome then
      throw (.valueError "set_source() cannot be called several times per ffi object")
    let name ← match at_ ps 0 with
      | .plain (.str n) => pure n
      | _ => throw (.typeError "'module_name' must be a string")
    if name.contains '/' then
      throw (.valueError "'module_name' must not contain '/': use a dotted name to make a 'package.module' location")
    let source := match at_ ps 1 with
      | .plain (.str s) => some s
      | _ => none
    modifyInterface ffi fun i => { i with assigned := some (name, source) }
    pure .none
  | "init_once" =>
    let (ps, _, _) ← bindAs ["func", "tag"] 0
    let t := at_ ps 1
    match t with
    | .list _ | .dict _ => throw (.typeError ("unhashable type: '" ++ (← typeName t) ++ "'"))
    | _ => pure ()
    let key ← datumRepr t
    match (← interface ffi).initOnce.find? (·.1 == key) with
    | some (_, v) => pure v
    | none =>
      let v ← callDatum (at_ ps 0) [] []
      modifyInterface ffi fun i => { i with initOnce := i.initOnce ++ [(key, v)] }
      pure v
  | "def_extern" =>
    throw (.valueError "ffi.def_extern() is only available on API-mode FFI objects")
  | "list_types" =>
    let _ ← bindAs [] 0
    typeNames ffi
  | "dlopen" =>
    let (ps, _, _) ← bindAs ["name", "flags"] 1
    openLibrary ffi (at_ ps 0)
  | "dlclose" =>
    let (ps, _, _) ← bindAs ["lib"] 0
    match at_ ps 0 with
    | .library _ => throw (.attributeError "'CTypesLibrary' object has no attribute 'close_lib'")
    | other => throw (.attributeError ("type object '" ++ (← typeName other) ++ "' has no attribute '__cffi_close__'"))
  | "getwinerror" =>
    let _ ← bindAs ["code"] 1
    throw (noBackendAttribute "getwinerror")
  | "buffer" =>
    let _ ← bindMethod "CTypesBackend.buffer" ["bptr", "size"] 1 args kwargs false false
    throw (.notImplemented "buffer() with ctypes backend")
  | other => throw (.attributeError ("'FFI' object has no attribute '" ++ other ++ "'"))

end SessionM

end Basis.Foreign
