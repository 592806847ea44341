import Basis.Digest.Crc32
import Basis.Foreign.Extension.CSource

/-!
# Verified modules

The older way to compile declarations writes a plain C module: after the
user's source, each function gets a wrapper under a fixed name (a struct
passed or returned by pointer), each struct or union a function checking its
members' types and a function listing its size, alignment, and the offset and
size of each member, each constant or enumerator a function reading it or
checking its value, and each global a function returning its address. It
knows nothing of functions implemented on the scripting side.

A module not given a name is named by a digest of everything that makes it:
the version of the scripting side, the version of this format, the user's
source, the build options flattened to a text, and the declarations' sources.
The digest is two CRC-32 checksums, of the bytes at even and at odd positions.
-/

namespace Basis.Foreign

/-- A build option's value, as flattened into the digest of a module's name. -/
inductive Keyword where
  /-- A text. -/
  | text (s : String)
  /-- An integer. -/
  | number (n : Int)
  /-- A list. -/
  | seq (items : List Keyword)
  /-- A dictionary with text keys. -/
  | table (entries : List (String × Keyword))
  /-- Anything else, by its representation. -/
  | other (repr : String)
  deriving Inhabited

/-- The flat text of a build option's value: each text, dictionary, list and
integer tagged by its length or value and a letter, dictionary keys sorted;
at most `fuel` levels deep. -/
def flattenKeyword : Nat → Keyword → Except Failure String
  | 0, _ => .error recursionFailure
  | _ + 1, .text s => pure (toString s.length ++ "s" ++ s)
  | _ + 1, .number n => pure (toString n ++ "i")
  | fuel + 1, .seq items => do
    let parts ← items.mapM (flattenKeyword fuel)
    pure (toString items.length ++ "l" ++ String.join parts)
  | fuel + 1, .table entries => do
    let sorted := entries.mergeSort fun a b => compare a.1 b.1 != .gt
    let parts ← sorted.mapM fun (k, v) => do
      pure (toString k.length ++ "s" ++ k ++ (← flattenKeyword fuel v))
    pure (toString entries.length ++ "d" ++ String.join parts)
  | _ + 1, .other r => .error (.typeError ("the keywords to verify() contains unsupported object " ++ r))

/-- The lowercase hexadecimal digits of a number. -/
def hexDigits (n : Nat) : String := String.ofList (Nat.toDigits 16 n)

/-- The name of a module made from a digest of its sources: `_cffi_`, the tag,
`_g`, then the two checksums in hexadecimal, the first without leading zeros,
the second after an `x`. -/
def hashedModuleName (tag preamble flatKeywords : String) (sources : List String) : String :=
  let key := "\x00".intercalate (["3.1", "0.8.6", preamble, flatKeywords] ++ sources)
  let bytes := key.toUTF8.toList
  let even := (bytes.zipIdx.filter (·.2 % 2 == 0)).map (·.1)
  let odd := (bytes.zipIdx.filter (·.2 % 2 == 1)).map (·.1)
  let k1 := (Crc32.checksum even).toNat
  let k2 := (Crc32.checksum odd).toNat
  "_cffi_" ++ tag ++ "_g" ++ (if k1 == 0 then "" else hexDigits k1) ++ "x" ++ hexDigits k2

/-- The name under which a module is loaded: the last part of its file's path,
up to the first dot. -/
def loadedModuleName (moduleName : String) : String :=
  let file := moduleName ++ ".so"
  let base := (file.splitOn "/").getLast?.getD file
  (base.splitOn ".").headD ""

open EmitM

/-- Writes the check of an integer constant's value, reporting the real value
when it differs. -/
def writeValueCheck (name : String) (value : Int) : EmitM Unit := do
  if value ≤ 0 then
    line ("  if ((" ++ name ++ ") > 0 || (long)(" ++ name ++ ") != " ++ toString value ++ "L) \x7b")
  else
    line ("  if ((" ++ name ++ ") <= 0 || (unsigned long)(" ++ name ++ ") != " ++ toString value ++ "UL) \x7b")
  line "    char buf[64];"
  line ("    if ((" ++ name ++ ") <= 0)")
  line ("        sprintf(buf, \"%ld\", (long)(" ++ name ++ "));")
  line "    else"
  line ("        sprintf(buf, \"%lu\", (unsigned long)(" ++ name ++ "));")
  line "    sprintf(out_error, \"%s has the real value %s, not %s\","
  line ("            \"" ++ (name.take 100).toString ++ "\", buf, \"" ++ toString value ++ "\");")
  line "    return -1;"
  line "  \x7d"

/-- Whether a type is a primitive integer type of known size. -/
def CType.isKnownInteger : CType → Bool
  | .primitive n => numericOf? n == some .integer
  | _ => false

/-- Writes the function reading a constant or a global's address, or
checking an integer constant's value. -/
def writeVerifiedConstant (p : Plan) (isInt : Bool) (name : String) (t : CType := .void)
    (category : String := "const") (check : Option Int := none) : EmitM Unit := do
  let funcname := "_cffi_" ++ category ++ "_" ++ name
  match check with
  | some v =>
    line ("int " ++ funcname ++ "(char *out_error)")
    line "\x7b"
    writeValueCheck name v
    line "  return 0;"
    line "\x7d"
  | none =>
    if isInt then
      line ("int " ++ funcname ++ "(long long *out_value)")
      line "\x7b"
      line ("  *out_value = (long long)(" ++ name ++ ");")
      line ("  return (" ++ name ++ ") <= 0;")
      line "\x7d"
    else
      let (extra, ampersand) :=
        if category == "const" && p.isRecord t then ("const *", "&")
        else ("", if category == "var" then "&" else "")
      line (← cName p t (" " ++ extra ++ funcname ++ "(void)") name)
      line "\x7b"
      line ("  return (" ++ ampersand ++ name ++ ");")
      line "\x7d"
  line

/-- Writes the wrapper of a declared function; a function with a variable
number of arguments is read as a constant instead. -/
def writeVerifiedFunction (p : Plan) (t : CType) (name : String) : EmitM Unit := do
  if t.hasEllipsis then
    writeVerifiedConstant p false name t
    return
  let (args, result, abi) := t.signature
  let argnames := args.zipIdx.map fun (a, i) => (if p.isRecord a then "*" else "") ++ "x" ++ toString i
  let context := "argument of " ++ name
  let arglist ← (args.zip argnames).mapM fun (a, n) => cName p a (" " ++ n) context
  let (arglist, resultType) ←
    if p.isRecord result then pure ((← cName p result " *r" context) :: arglist, CType.void)
    else pure (arglist, result)
  let arglist := if arglist.isEmpty then "void" else ", ".intercalate arglist
  let abiText := match abi with
    | some a => a ++ " "
    | none => ""
  line (← cName p resultType (" " ++ abiText ++ "_cffi_f_" ++ name ++ "(" ++ arglist ++ ")") ("result of " ++ name))
  line "\x7b"
  let resultCode := if p.isRecord result then "*r = " else if result matches .void then "" else "return "
  line ("  " ++ resultCode ++ name ++ "(" ++ ", ".intercalate argnames ++ ");")
  line "\x7d"
  line

/-- Writes the member checks and the layout function of a struct or union. -/
def writeVerifiedRecord (p : Plan) (t : CType) (pre name : String) : EmitM Unit := do
  if p.isOpaqueRecord t then return
  let check := "_cffi_check_" ++ pre ++ "_" ++ name
  let layout := "_cffi_layout_" ++ pre ++ "_" ++ name
  let cname := trimBoth (pre ++ " " ++ name)
  let fields ← lift (p.fieldsOf t true)
  line ("static void " ++ check ++ "(" ++ cname ++ " *p)")
  line "\x7b"
  line "  /* only to generate compile-time warnings or errors */"
  line "  (void)p;"
  for f in fields do
    if f.type.isKnownInteger || f.bitsize ≥ 0 then line ("  (void)((p->" ++ f.name ++ ") << 1);")
    else
      match p.cName f.type "*tmp" ("field " ++ Value.strRepr f.name) f.quals with
      | .ok decl => line ("  \x7b " ++ decl ++ " = &p->" ++ f.name ++ "; (void)tmp; \x7d")
      | .error e =>
        if e.kind == "VerificationError" then line ("  /* " ++ e.message ++ " */") else throw e
  line "\x7d"
  line ("intptr_t " ++ layout ++ "(intptr_t i)")
  line "\x7b"
  line ("  struct _cffi_aligncheck \x7b char x; " ++ cname ++ " y; \x7d;")
  line "  static intptr_t nums[] = \x7b"
  line ("    sizeof(" ++ cname ++ "),")
  line "    offsetof(struct _cffi_aligncheck, y),"
  for f in fields do
    if f.bitsize < 0 then
      line ("    offsetof(" ++ cname ++ ", " ++ f.name ++ "),")
      match f.type with
      | .array _ .open _ => line ("    0,  /* " ++ p.spell f.type ++ " */")
      | _ => line ("    sizeof(((" ++ cname ++ " *)0)->" ++ f.name ++ "),")
  line "    -1"
  line "  \x7d;"
  line "  return nums[i];"
  line "  /* the next line is not executed, but compiled */"
  line ("  " ++ check ++ "(0);")
  line "\x7d"
  line

/-- Writes the checks of an enum's values, or for an enum with values left
to a compiler the functions reading them. -/
def writeVerifiedEnum (p : Plan) (tg : Tag) (name pre : String) : EmitM Unit := do
  if tg.isPartial then
    tg.enumerators.forM fun e => writeVerifiedConstant p true e
    return
  line ("int _cffi_e_" ++ pre ++ "_" ++ name.replace "$" "___D_" ++ "(char *out_error)")
  line "\x7b"
  (tg.enumerators.zip tg.enumvalues).forM fun (e, v) => writeValueCheck e v
  line "  return 0;"
  line "\x7d"
  line

/-- Writes the code of one declaration of a verified module. -/
def writeVerifiedDecl (p : Plan) : String × Entry → EmitM Unit
  | (key, e) => do
    let (kind, name) := splitKey key
    let known := ["typedef", "function", "struct", "union", "anonymous", "constant", "enum", "macro",
      "variable"]
    if !known.contains kind then
      throw (verificationError ("not implemented in verify(): " ++ Value.strRepr key))
    EmitM.underKey key do
      let t := e.declaredType
      match kind with
      | "typedef" => pure ()
      | "function" => writeVerifiedFunction p t name
      | "struct" | "union" => writeVerifiedRecord p t kind name
      | "anonymous" =>
        match p.tagOf? t with
        | some tg =>
          if tg.kind == .enum then writeVerifiedEnum p tg name ""
          else writeVerifiedRecord p t "" name
        | none => pure ()
      | "constant" => writeVerifiedConstant p t.isKnownInteger name t
      | "enum" =>
        match p.tagOf? t with
        | some tg => writeVerifiedEnum p tg name "enum"
        | none => pure ()
      | "macro" =>
        match e.value with
        | .number n => writeVerifiedConstant p true name .void "const" (some n)
        | _ => writeVerifiedConstant p true name
      | _ =>
        match t with
        | .array item length _ =>
          if length == .deferred then
            line ("size_t _cffi_sizeof_" ++ name ++ "(void)")
            line "\x7b"
            line ("  return sizeof(" ++ name ++ ");")
            line "\x7d"
          writeVerifiedConstant p false name (CType.pointerTo p.tags item 0)
        | _ => writeVerifiedConstant p false name (CType.pointerTo p.tags t 0) "var"

/-- Writes a verified module: the header, the user's source and the code of
each declaration. -/
def writeVerifiedSource (p : Plan) (preamble : String) : EmitM Unit := do
  line "@@cffimod_header@@"
  line preamble
  p.decls.forM (writeVerifiedDecl p)

end Basis.Foreign
