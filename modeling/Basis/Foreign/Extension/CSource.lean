import Basis.Foreign.Extension.Tables

/-!
# The C source of a generated module

A module in C holds, after the user's own source (the *preamble*), the type
table, one piece of code per declaration, the other tables, and the
functions that start the module. The code of a declaration is:

* for a function, a direct call (`_cffi_d_f`), then a wrapper that converts
  the arguments from objects of the scripting side, calls the function with
  the interpreter's lock released, and converts the result back; on the other
  interpreter, a version that passes structs and complex numbers by pointer;
* for a constant, enumerator or integer macro, a function that reads it and,
  for an integer, checks its sign and value;
* for a struct or union, a function that makes a compiler check each member's
  type, and a struct that measures its alignment;
* for a global variable, a function that returns its address;
* for a function implemented on the scripting side, a function that packs its
  arguments and calls into the scripting side.
-/

namespace Basis.Foreign

namespace EmitM

/-- The spelling of a type declaring `declarator`, failing for a type C cannot name. -/
def cName (p : Plan) (t : CType) (declarator : String := "") (context : String := "a C file")
    (quals : Nat := 0) : EmitM String :=
  lift (p.cName t declarator context quals)

/-- The slot of a type in the type table. -/
def slot (p : Plan) (tt : TypeTable) (t : CType) : EmitM Nat := lift (tt.slot p t)

end EmitM

open EmitM

/-- Whether a type is primitive, of known or unknown size. -/
def CType.isPrimitiveLike : CType → Bool
  | .primitive _ | .unknownInteger _ | .unknownFloat _ => true
  | _ => false

/-- Whether a type is a complex number type. -/
def CType.isComplex : CType → Bool
  | .primitive n => numericOf? n == some .complex
  | _ => false

/-- The name of a primitive type. -/
def CType.primitiveName : CType → String
  | .primitive n | .unknownInteger n | .unknownFloat n => n
  | _ => ""

/-- Whether a type is a pointer to data (not to a function). -/
def CType.isDataPointer : CType → Bool
  | .pointer .. | .namedPointer .. => true
  | _ => false

/-- Whether a type is a pointer to a function. -/
def CType.isFunctionPointer : CType → Bool
  | .function true .. => true
  | _ => false

/-- The text of an integer in Python's `%d` form with a `U` suffix when positive. -/
def checkValueText (v : Int) : String := if v > 0 then toString v ++ "U" else toString v

/-- Writes the function that reads a constant, once per category and name. An
integer constant's function also reports its sign and, given a value, whether
it has that value. -/
def writeConstant (p : Plan) (isInt : Bool) (name : String) (t : CType := .void)
    (category : String := "const") (check : Option Int := none) : EmitM Unit := do
  if (← get).constants.contains (category, name) then
    throw (verificationError ("duplicate declaration of " ++ category ++ " '" ++ name ++ "'"))
  modify fun e => { e with constants := e.constants ++ [(category, name)] }
  let funcname := "_cffi_" ++ category ++ "_" ++ name
  if isInt then
    line ("static int " ++ funcname ++ "(unsigned long long *o)")
    line "\x7b"
    line ("  int n = (" ++ name ++ ") <= 0;")
    line ("  *o = (unsigned long long)((" ++ name ++ ") | 0);  /* check that " ++ name ++ " is an integer */")
    match check with
    | some v =>
      line ("  if (!_cffi_check_int(*o, n, " ++ checkValueText v ++ "))")
      line "    n |= 2;"
    | none => pure ()
    line "  return n;"
    line "\x7d"
  else
    line ("static void " ++ funcname ++ "(char *o)")
    line "\x7b"
    line ("  *(" ++ (← cName p t "*") ++ ")o = " ++ name ++ ";")
    line "\x7d"
  line

/-- Writes the conversion of a pointer argument, which may need a buffer of its own. -/
def writePointerArg (p : Plan) (tt : TypeTable) (t : CType) (fromvar tovar errcode : String) :
    EmitM Unit := do
  let index := toString (← slot p tt t)
  line "  datasize = _cffi_prepare_pointer_call_argument("
  line ("      _cffi_type(" ++ index ++ "), " ++ fromvar ++ ", (char **)&" ++ tovar ++ ");")
  line "  if (datasize != 0) \x7b"
  line "    if (datasize < 0)"
  line ("      " ++ errcode ++ ";")
  line ("    " ++ tovar ++ " = (" ++ (← cName p t) ++ ")alloca((size_t)datasize);")
  line ("    memset((void *)" ++ tovar ++ ", 0, (size_t)datasize);")
  line ("    if (_cffi_convert_array_from_object((char *)" ++ tovar ++ ", _cffi_type(" ++ index ++ "), " ++
    fromvar ++ ") < 0)")
  line ("      " ++ errcode ++ ";")
  line "  \x7d"

/-- Writes the conversion of an argument from an object of the scripting side. -/
def writeArgConversion (p : Plan) (tt : TypeTable) (t : CType) (fromvar tovar errcode : String) :
    EmitM Unit := do
  let plain := fun (converter extra errvalue : String) => do
    line ("  " ++ tovar ++ " = " ++ converter ++ "(" ++ fromvar ++ extra ++ ");")
    line ("  if (" ++ tovar ++ " == (" ++ (← cName p t) ++ ")" ++ errvalue ++ " && PyErr_Occurred())")
    line ("    " ++ errcode ++ ";")
  if t.isPrimitiveLike && !t.isComplex then
    let name := t.primitiveName
    if t.isInteger && name != "_Bool" then plain "_cffi_to_c_int" (", " ++ name) "-1"
    else match t with
      | .unknownFloat _ => plain ("(" ++ (← cName p t) ++ ")_cffi_to_c_double") "" "-1"
      | _ =>
        let cname ← cName p t
        if cname == "char16_t" || cname == "char32_t" then needsVersion 0x2801
        plain ("(" ++ cname ++ ")_cffi_to_c_" ++ name.replace " " "_") "" "-1"
  else if t.isDataPointer then writePointerArg p tt t fromvar tovar errcode
  else if (p.tagOf? t).isSome || t.isPrimitiveLike then
    line ("  if (_cffi_to_c((char *)&" ++ tovar ++ ", _cffi_type(" ++ toString (← slot p tt t) ++ "), " ++
      fromvar ++ ") < 0)")
    line ("    " ++ errcode ++ ";")
  else if t.isFunctionPointer then
    plain ("(" ++ (← cName p t) ++ ")_cffi_to_c_pointer") (", _cffi_type(" ++ toString (← slot p tt t) ++ ")") "NULL"
  else throw ⟨"NotImplementedError", "<" ++ p.spell t ++ ">"⟩

/-- The expression converting a C value to an object of the scripting side. -/
def convertFromC (p : Plan) (tt : TypeTable) (t : CType) (var context : String) : EmitM String := do
  let deref := fun (u : CType) => do
    pure ("_cffi_from_c_deref((char *)&" ++ var ++ ", _cffi_type(" ++ toString (← slot p tt u) ++ "))")
  if t.isPrimitiveLike then
    let name := t.primitiveName
    if t.isInteger && name != "_Bool" then return "_cffi_from_c_int(" ++ var ++ ", " ++ name ++ ")"
    match t with
    | .unknownFloat _ => return "_cffi_from_c_double(" ++ var ++ ")"
    | _ =>
      if name != "long double" && !t.isComplex then
        let cname := name.replace " " "_"
        if cname == "char16_t" || cname == "char32_t" then needsVersion 0x2801
        return "_cffi_from_c_" ++ cname ++ "(" ++ var ++ ")"
      deref t
  else if t.isDataPointer || t.isFunctionPointer then
    return "_cffi_from_c_pointer((char *)" ++ var ++ ", _cffi_type(" ++ toString (← slot p tt t) ++ "))"
  else match t with
    | .array item .. =>
      let ptr := CType.pointerTo p.tags item 0
      return "_cffi_from_c_pointer((char *)" ++ var ++ ", _cffi_type(" ++ toString (← slot p tt ptr) ++ "))"
    | _ =>
      if p.isRecord t then
        if p.isOpaqueRecord t then
          throw (.typeError ("'" ++ p.spell t ++ "' is used as " ++ context ++ ", but is opaque"))
        return "_cffi_from_c_struct((char *)&" ++ var ++ ", _cffi_type(" ++ toString (← slot p tt t) ++ "))"
      else if p.isEnum t then deref t
      else throw ⟨"NotImplementedError", "<" ++ p.spell t ++ ">"⟩

/-- The arguments and result of a function type. -/
def CType.signature : CType → List CType × CType × Option String
  | .function _ args result _ abi _ => (args, result, abi)
  | t => ([], t, none)

/-- Whether a type is passed by pointer to the other interpreter's wrappers. -/
def passedByPointer (p : Plan) (t : CType) : Bool := p.isRecord t || t.isComplex

/-- Writes the code of a declared function: the direct call, the wrapper for
one interpreter and the pointer-passing version for the other. -/
def writeFunction (p : Plan) (tt : TypeTable) (t : CType) (name : String) : EmitM Unit := do
  if t.hasEllipsis then
    writeConstant p false name t
    return
  let (args, result, abi) := t.signature
  let numargs := args.length
  let argname := if numargs == 0 then "noarg" else if numargs == 1 then "arg0" else "args"
  let context := "argument of " ++ name
  let isVoid := result matches .void
  let indexed := args.zipIdx
  -- the direct call
  let arguments ← indexed.mapM fun (a, i) => cName p a (" x" ++ toString i) context
  let reprArguments := if arguments.isEmpty then "void" else ", ".intercalate arguments
  let abiText := match abi with
    | some a => a ++ " "
    | none => ""
  line ("static " ++ (← cName p result (abiText ++ "_cffi_d_" ++ name ++ "(" ++ reprArguments ++ ")")))
  line "\x7b"
  let callArguments := ", ".intercalate (indexed.map fun (_, i) => "x" ++ toString i)
  line ("  " ++ (if isVoid then "" else "return ") ++ name ++ "(" ++ callArguments ++ ");")
  line "\x7d"
  -- the wrapper
  line "#ifndef PYPY_VERSION"
  line "static PyObject *"
  line ("_cffi_f_" ++ name ++ "(PyObject *self, PyObject *" ++ argname ++ ")")
  line "\x7b"
  for (a, i) in indexed do
    line ("  " ++ (← cName p a (" x" ++ toString i) context) ++ ";")
  if args.any CType.isDataPointer then line "  Py_ssize_t datasize;"
  let resultDecl ←
    if isVoid then pure none
    else pure (some ("  " ++ (← cName p result " result" ("result of " ++ name)) ++ ";"))
  if let some d := resultDecl then line d
  if numargs > 1 then
    for (_, i) in indexed do
      line ("  PyObject *arg" ++ toString i ++ ";")
    line
    line ("  if (!PyArg_UnpackTuple(args, \"" ++ name ++ "\", " ++ toString numargs ++ ", " ++
      toString numargs ++ ", " ++ ", ".intercalate (indexed.map fun (_, i) => "&arg" ++ toString i) ++ "))")
    line "    return NULL;"
  line
  for (a, i) in indexed do
    writeArgConversion p tt a ("arg" ++ toString i) ("x" ++ toString i) "return NULL"
    line
  line "  Py_BEGIN_ALLOW_THREADS"
  line "  _cffi_restore_errno();"
  line ("  \x7b " ++ (if isVoid then "" else "result = ") ++ name ++ "(" ++ callArguments ++ "); \x7d")
  line "  _cffi_save_errno();"
  line "  Py_END_ALLOW_THREADS"
  line
  line "  (void)self; /* unused */"
  if numargs == 0 then line "  (void)noarg; /* unused */"
  if isVoid then
    line "  Py_INCREF(Py_None);"
    line "  return Py_None;"
  else line ("  return " ++ (← convertFromC p tt result "result" "result type") ++ ";")
  line "\x7d"
  -- the version passing structs by pointer
  line "#else"
  let pieces ← indexed.mapM fun (a, i) => do
    let star := if passedByPointer p a then "*" else ""
    pure (← cName p a (" " ++ star ++ "x" ++ toString i) context, star ++ "x" ++ toString i)
  let byPointer := args.any (passedByPointer p)
  let (arguments, resultType, resultDecl, resultCode, differs) ←
    if passedByPointer p result then do
      let first ← cName p result " *result" ("result of " ++ name)
      pure (first :: pieces.map (·.1), CType.void, none, "*result = ", true)
    else pure (pieces.map (·.1), result, resultDecl, (if isVoid then "" else "result = "), byPointer)
  if differs then
    let reprArguments := if arguments.isEmpty then "void" else ", ".intercalate arguments
    line ("static " ++ (← cName p resultType (abiText ++ "_cffi_f_" ++ name ++ "(" ++ reprArguments ++ ")")))
    line "\x7b"
    if let some d := resultDecl then line d
    line ("  \x7b " ++ resultCode ++ name ++ "(" ++ ", ".intercalate (pieces.map (·.2)) ++ "); \x7d")
    if resultDecl.isSome then line "  return result;"
    line "\x7d"
  else line ("#  define _cffi_f_" ++ name ++ " _cffi_d_" ++ name)
  line "#endif"
  line

/-- Writes the checks of a struct or union's members and its alignment probe. -/
def writeRecordChecks (p : Plan) (t : CType) (cname approx : String) : EmitM Unit := do
  if p.isOpaqueRecord t then return
  line "_CFFI_UNUSED_FN"
  line ("static void _cffi_checkfld_" ++ approx ++ "(" ++ cname ++ " *p)")
  line "\x7b"
  line "  /* only to generate compile-time warnings or errors */"
  line "  (void)p;"
  for f in ← lift (p.fieldsOf t true) do
    if f.type.isInteger || f.bitsize ≥ 0 then
      line ("  (void)((p->" ++ f.name ++ ") | 0);  /* check that '" ++ cname ++ "." ++ f.name ++ "' is an integer */")
    else
      let (ftype, fname) := unwrapOpenArrays 1000 f.type f.name
      match p.cName ftype "*tmp" ("field " ++ Value.strRepr fname) f.quals with
      | .ok decl => line ("  \x7b " ++ decl ++ " = &p->" ++ fname ++ "; (void)tmp; \x7d")
      | .error e =>
        if e.kind == "VerificationError" then line ("  /* " ++ e.message ++ " */") else throw e
  line "\x7d"
  line ("struct _cffi_align_" ++ approx ++ " \x7b char x; " ++ cname ++ " y; \x7d;")
  line
where
  /-- Strips arrays of open or `[...]` length, naming their first item. -/
  unwrapOpenArrays : Nat → CType → String → CType × String
    | n + 1, .array item .open _, name => unwrapOpenArrays n item (name ++ "[0]")
    | n + 1, .array item .deferred _, name => unwrapOpenArrays n item (name ++ "[0]")
    | _, t, name => (t, name)

/-- Writes the function returning the address of a global variable. -/
def writeVariable (p : Plan) (t : CType) (name : String) (quals : Nat) : EmitM Unit := do
  let t := p.globalType name t
  let (t, ampersand) := match t with
    | .array item .open _ => (item, "")
    | _ => (t, "&")
  line ("static " ++ (← cName p t ("*_cffi_var_" ++ name ++ "(void)") "a C file" quals))
  line "\x7b"
  line ("  return " ++ ampersand ++ "(" ++ name ++ ");")
  line "\x7d"
  line

/-- Whether a type needs 16 bytes to be passed. -/
def needs128Bits (t : CType) : Bool :=
  match t with
  | .primitive "long double" => true
  | _ => false

/-- Writes a function implemented on the scripting side: it packs its
arguments in 8-byte cells and calls into the scripting side. -/
def writeExternFunction (p : Plan) (t : CType) (name tagAndSpace : String) : EmitM Unit := do
  let (args, result, abi) := t.signature
  let isVoid := result matches .void
  let sizeOfResult ←
    if isVoid then pure "0"
    else pure ("(int)sizeof(" ++ (← cName p result "" ("result of " ++ name)) ++ ")")
  line ("static struct _cffi_externpy_s _cffi_externpy__" ++ name ++ " =")
  line ("  \x7b \"" ++ p.moduleName ++ "." ++ name ++ "\", " ++ sizeOfResult ++ " \x7d;")
  line
  let indexed := args.zipIdx
  let arguments ← indexed.mapM fun (a, i) => cName p a (" a" ++ toString i) ("argument of " ++ name)
  let reprArguments := if arguments.isEmpty then "void" else ", ".intercalate arguments
  let nameAndArguments := name ++ "(" ++ reprArguments ++ ")"
  let nameAndArguments := if abi == some "__stdcall" then "_cffi_stdcall " ++ nameAndArguments
    else nameAndArguments
  let sizeOfA := max (args.length * 8) 8
  let sizeOfA := if needs128Bits result then max sizeOfA 16 else sizeOfA
  let sizeText ←
    if p.isRecord result then do
      let r ← cName p result
      pure ("sizeof(" ++ r ++ ") > " ++ toString sizeOfA ++ " ? sizeof(" ++ r ++ ") : " ++ toString sizeOfA)
    else pure (toString sizeOfA)
  line (tagAndSpace ++ (← cName p result nameAndArguments))
  line "\x7b"
  line ("  char a[" ++ sizeText ++ "];")
  line "  char *p = a;"
  for (a, i) in indexed do
    let (arg, ty) :=
      if p.isRecord a || needs128Bits a then ("&a" ++ toString i, CType.pointerTo p.tags a 0)
      else ("a" ++ toString i, a)
    line ("  *(" ++ (← cName p ty "*") ++ ")(p + " ++ toString (i * 8) ++ ") = " ++ arg ++ ";")
  line ("  _cffi_call_python(&_cffi_externpy__" ++ name ++ ", p);")
  if !isVoid then line ("  return *(" ++ (← cName p result "*") ++ ")p;")
  line "\x7d"
  line
  modify fun e => { e with externs := e.externs + 1 }

/-- Writes the code of one declaration. -/
def writeDecl (p : Plan) (tt : TypeTable) : String × Entry → EmitM Unit
  | (key, e) => EmitM.underKey key do
    let (kind, name) := splitKey key
    let t := e.declaredType
    match kind with
    | "typedef" => pure ()
    | "function" => writeFunction p tt t name
    | "struct" | "union" =>
      let (cname, approx) ← lift (recordNames p t)
      writeRecordChecks p t cname approx
    | "anonymous" =>
      match p.tagOf? t with
      | some tg =>
        if tg.kind == .enum then tg.enumerators.forM fun en => writeConstant p true en
        else writeRecordChecks p t name ("typedef_" ++ name)
      | none => pure ()
    | "constant" => writeConstant p t.isInteger name t
    | "enum" =>
      match p.tagOf? t with
      | some tg => tg.enumerators.forM fun en => writeConstant p true en
      | none => pure ()
    | "macro" =>
      let check := match e.value with
        | .number n => some n
        | _ => none
      writeConstant p true name .void "const" check
    | "variable" => writeVariable p t name e.quals
    | "extern_python" => writeExternFunction p t name "static "
    | "dllexport_python" => writeExternFunction p t name "CFFI_DLLEXPORT "
    | _ => writeExternFunction p t name ""

/-- The separator line around the user's source. -/
def separatorLine : String := "/" ++ String.ofList (List.replicate 60 '*') ++ "/"

/-- The C text of a global entry. -/
def GlobalEntry.cText (g : GlobalEntry) : String :=
  "  \x7b \"" ++ g.name ++ "\", (void *)" ++ g.address ++ ", " ++ g.op.cExpr ++ ", (void *)" ++ g.size ++ " \x7d,"

/-- The C text of a member entry. -/
def FieldEntry.cText (f : FieldEntry) : String :=
  let spaces := String.ofList (List.replicate f.name.length ' ')
  "  \x7b \"" ++ f.name ++ "\", " ++ f.offset ++ ",\n" ++
  "     " ++ spaces ++ "   " ++ f.size ++ ",\n" ++
  "     " ++ spaces ++ "   " ++ f.op.cExpr ++ " \x7d,"

/-- The C text of a struct or union entry. -/
def RecordEntry.cText (r : RecordEntry) : String :=
  "  \x7b \"" ++ r.name ++ "\", " ++ toString r.typeIndex ++ ", " ++ flagsText r.flags ++ "," ++
  "\n    " ++ r.size ++ ", " ++ r.align ++ ", " ++
  toString r.firstField ++ ", " ++ toString r.fields.length ++ " " ++
  (match r.comment with
    | some c => "/* " ++ c ++ " */ "
    | none => "") ++ "\x7d,"

/-- The C text of an enum entry. -/
def EnumEntry.cText (e : EnumEntry) : String :=
  "  \x7b \"" ++ e.name ++ "\", " ++ toString e.typeIndex ++ ", _cffi_prim_int(" ++ e.size ++ ", " ++ e.signed ++
  "),\n    \"" ++ e.enumerators ++ "\" \x7d,"

/-- The C text of a type name entry. -/
def TypenameEntry.cText (t : TypenameEntry) : String :=
  "  \x7b \"" ++ t.name ++ "\", " ++ toString t.typeIndex ++ " \x7d,"

/-- Right-aligns a number in two columns. -/
def twoColumns (n : Nat) : String := if n < 10 then " " ++ toString n else toString n

/-- The tables of a module in C, by name, with their entries' texts. -/
def Tables.cTables (tabs : Tables) : List (String × List String) :=
  [("global", tabs.globals.map GlobalEntry.cText), ("field", tabs.fields.map FieldEntry.cText),
   ("struct_union", tabs.records.map RecordEntry.cText), ("enum", tabs.enums.map EnumEntry.cText),
   ("typename", tabs.typenames.map TypenameEntry.cText)]

/-- Writes the lines of the code embedded as an array of character codes,
each line first as a comment. -/
def writeStringLiteral (s : String) : EmitM Unit := do
  line "// # NB. this is not a string because of a size limit in MSVC"
  for l in splitLinesKeepEnds s do
    line (trimEndText ("// " ++ l))
    let mut printed := ""
    for c in l.toList do
      if printed.length ≥ 76 then
        line printed
        printed := ""
      printed := printed ++ toString c.toNat ++ ","
    line printed
where
  /-- The text without the blanks at its end. -/
  trimEndText (s : String) : String := String.ofList (s.toList.reverse.dropWhile Text.isBlank).reverse
  /-- The lines of a text, each with its line break. -/
  splitLinesKeepEnds (s : String) : List String :=
    let (lines, cur) := s.toList.foldl (fun (st : List String × List Char) c =>
      let (lines, cur) := st
      if c == '\n' then (lines ++ [String.ofList (cur ++ [c])], []) else (lines, cur ++ [c])) ([], [])
    if cur.isEmpty then lines else lines ++ [String.ofList cur]

/-- Writes the lines before the user's source: the header, and for an embedded
module its name, startup code and start function. -/
def writeCPrefix (p : Plan) (embedding : Option String) : EmitM Unit := do
  let base := (p.moduleName.splitOn ".").getLast?.getD p.moduleName
  if embedding.isSome then line "#define _CFFI_USE_EMBEDDING"
  line "@@_cffi_include.h@@"
  if let some code := embedding then
    line ("#define _CFFI_MODULE_NAME  \"" ++ p.moduleName ++ "\"")
    line "static const char _CFFI_PYTHON_STARTUP_CODE[] = \x7b"
    writeStringLiteral code
    line "0 \x7d;"
    line "#ifdef PYPY_VERSION"
    line ("# define _CFFI_PYTHON_STARTUP_FUNC  _cffi_pypyinit_" ++ base)
    line "#elif PY_MAJOR_VERSION >= 3"
    line ("# define _CFFI_PYTHON_STARTUP_FUNC  PyInit_" ++ base)
    line "#else"
    line ("# define _CFFI_PYTHON_STARTUP_FUNC  init" ++ base)
    line "#endif"
    line "@@_embedding.h@@"
    needsVersion 0x2701

/-- Writes a module in C after the header: the user's source, the type table,
the code of the declarations, the tables and the start functions.
`includes` are the module names of the included interfaces, or the failure
of one that cannot be included. -/
def writeCBody (p : Plan) (tt : TypeTable) (tabs : Tables) (preamble : String)
    (includes : Except Failure (List String)) : EmitM Unit := do
  let base := (p.moduleName.splitOn ".").getLast?.getD p.moduleName
  line separatorLine
  line
  line preamble
  line
  line separatorLine
  line
  line "static void *_cffi_types[] = \x7b"
  for (op, i) in tt.ops.toList.zipIdx do
    let comment := match tt.typeAt? i with
      | some t => " // " ++ p.spell t
      | none => ""
    line ("/* " ++ twoColumns i ++ " */ " ++ op.cExpr ++ "," ++ comment)
  if tt.ops.isEmpty then line "  0"
  line "\x7d;"
  line
  p.decls.forM (writeDecl p tt)
  let tables := tabs.cTables
  for (step, entries) in tables do
    if !entries.isEmpty then
      line ("static const struct _cffi_" ++ step ++ "_s _cffi_" ++ step ++ "s[] = \x7b")
      entries.forM fun l => line l
      line "\x7d;"
      line
  let includes ← lift includes
  if !includes.isEmpty then
    line "static const char * const _cffi_includes[] = \x7b"
    for m in includes do
      line ("  \"" ++ m ++ "\",")
    line "  NULL"
    line "\x7d;"
    line
  line "static const struct _cffi_type_context_s _cffi_type_context = \x7b"
  line "  _cffi_types,"
  for (step, entries) in tables do
    if entries.isEmpty then line ("  NULL,  /* no " ++ step ++ "s */")
    else line ("  _cffi_" ++ step ++ "s,")
  for (step, entries) in tables do
    if step != "field" then line ("  " ++ toString entries.length ++ ",  /* num_" ++ step ++ "s */")
  if includes.isEmpty then line "  NULL,  /* no includes */" else line "  _cffi_includes,"
  line ("  " ++ toString tt.ops.size ++ ",  /* num_types */")
  let externs := (← get).externs
  line ("  " ++ (if externs > 0 then "1" else "0") ++ ",  /* flags */")
  line "\x7d;"
  line
  let version := "0x" ++ String.ofList (Nat.toDigits 16 (← get).version)
  line "#ifdef __GNUC__"
  line "#  pragma GCC visibility push(default)  /* for -fvisibility= */"
  line "#endif"
  line
  line "#ifdef PYPY_VERSION"
  line "PyMODINIT_FUNC"
  line ("_cffi_pypyinit_" ++ base ++ "(const void *p[])")
  line "\x7b"
  if externs > 0 then
    line "    if (((intptr_t)p[0]) >= 0x0A03) \x7b"
    line "        _cffi_call_python_org = (void(*)(struct _cffi_externpy_s *, char *))p[1];"
    line "    \x7d"
  line ("    p[0] = (const void *)" ++ version ++ ";")
  line "    p[1] = &_cffi_type_context;"
  line "#if PY_MAJOR_VERSION >= 3"
  line "    return NULL;"
  line "#endif"
  line "\x7d"
  line "#  ifdef _MSC_VER"
  line "     PyMODINIT_FUNC"
  line "#  if PY_MAJOR_VERSION >= 3"
  line ("     PyInit_" ++ base ++ "(void) \x7b return NULL; \x7d")
  line "#  else"
  line ("     init" ++ base ++ "(void) \x7b \x7d")
  line "#  endif"
  line "#  endif"
  line "#elif PY_MAJOR_VERSION >= 3"
  line "PyMODINIT_FUNC"
  line ("PyInit_" ++ base ++ "(void)")
  line "\x7b"
  line ("  return _cffi_init(\"" ++ p.moduleName ++ "\", " ++ version ++ ", &_cffi_type_context);")
  line "\x7d"
  line "#else"
  line "PyMODINIT_FUNC"
  line ("init" ++ base ++ "(void)")
  line "\x7b"
  line ("  _cffi_init(\"" ++ p.moduleName ++ "\", " ++ version ++ ", &_cffi_type_context);")
  line "\x7d"
  line "#endif"
  line
  line "#ifdef __GNUC__"
  line "#  pragma GCC visibility pop"
  line "#endif"

end Basis.Foreign
