import Basis.C.Parser
import Basis.Text.Lines
import Basis.Integer.Bitwise
import Basis.Foreign.Resolve

/-!
# Reading foreign declarations

`parseDeclarations` reads a source of foreign declarations into the book being
worked on. The source is made plain C (`prepareSource`), and parsed after a
preamble that declares as type names those the parser must know: the names
the book defined with `typedef`, the common types the source uses, and the
names standing for `...`. The preamble is followed by a line marker, so that the
source's own lines are numbered from 1 in the file `<cdef source string>`; a
parse error on one of them quotes that line.

Each declaration after the preamble then declares keys in the book:

* a function declares `function f` (or, inside `extern "Python"`, the keys of
  functions implemented in the scripting language), as a pointer to the function;
* a type definition declares `typedef T`; `typedef ... T;`, `typedef int... T;`
  and `typedef float... T;` declare types that a compiler will complete;
* a variable declares `variable v`, or `constant v` when it is `const` and not
  an array; an integer variable with an integer literal as its value declares
  the integer constant `macro v` instead;
* a struct, union or enum declares its tag.

A refused declaration names the place of the declaration in its message. The
declarations read before a failure stay in the book.

`parseTypeAndQuals` reads one type, as the only parameter of a function.
-/

namespace Basis.Foreign

open C

/-- The name of the file of a source's own lines. -/
def cdefSourceName : String := "<cdef source string>"

/-- The warning about double quotes left in a source. -/
def stringLiteralWarning : String :=
  "String literal found in cdef() or type source. String literals are ignored here, but you should " ++
    "remove them anyway because some character sequences confuse pre-parsing."

/-- Sorts words in the order of their characters. -/
def sortWords (ws : List String) : List String := ws.mergeSort fun a b => compare a b != .gt

/-- The number of the line a parse error of the source's own lines is at. -/
def errorLine? (message : String) : Option Nat :=
  let head := cdefSourceName ++ ":"
  if message.startsWith head then
    let rest := (message.drop head.length).toString.toList
    let digits := rest.takeWhile Char.isDigit
    if !digits.isEmpty && (rest.drop digits.length).head? == some ':' then
      some (digits.foldl (fun n c => 10 * n + (c.toNat - '0'.toNat)) 0)
    else none
  else none

namespace DeclM

/-- The name of a node declaring one name. -/
def nodeName? : Node → Option String
  | .decl n .. | .typedefDecl n .. => n
  | _ => none

/-- Parses a source of foreign declarations: its syntax tree, macros and the
plain C it was made into. A parse error becomes a refusal quoting the line it is at. -/
def parseC (csource : String) : DeclM (Node × List (String × String) × String) := do
  let prepared ← match prepareSource csource with
    | .ok p => pure p
    | .error f => throw f
  if prepared.hasQuote then warn stringLiteralWarning
  let used := commonTypesUsed prepared.text
  let defined := sortWords (((← book).entries.map (·.1)).filterMap fun k =>
    if k.startsWith "typedef " then some (k.drop 8).toString else none)
  let typenames := defined ++ sortWords (used.filter (!defined.contains ·))
  let lines := ["# 1 \"<cdef automatic initialization code>\""] ++
    typenames.map (fun t => "typedef int " ++ t ++ ";") ++
    ["typedef int __dotdotdotint__, __dotdotdotfloat__, __dotdotdot__;",
     "# 1 \"" ++ cdefSourceName ++ "\"", prepared.text]
  let (outcome, mode) := parseSource ("\n".intercalate lines) "" (← get).mode
  modify fun w => { w with mode, seen := [] }
  match outcome with
  | .ok ast => return (ast, prepared.macros, prepared.text)
  | .error f =>
    if f.kind != "ParseError" then throw f
    let quoted := (errorLine? f.message).bind fun n =>
      if n ≥ 1 then (Text.splitLines prepared.text)[n - 1]? else none
    match quoted with
    | some line =>
      if line.isEmpty then throw (Source.cdefError ("parse error\n" ++ f.message))
      else throw (Source.cdefError ("cannot parse \"" ++ trimBoth line ++ "\"\n" ++ f.message))
    | none => throw (Source.cdefError ("parse error\n" ++ f.message))

/-- Declares a function, as a pointer to it, under the key its group asks for. -/
def declareFunction (t : CType) (quals : Nat) (name : Option String) : DeclM Unit := do
  let fp ← typePointer t quals none
  let b ← book
  let key :=
    if b.options.dllexport then "dllexport_python "
    else if b.insideExternPython == "__cffi_extern_python_start" then "extern_python "
    else if b.insideExternPython == "__cffi_extern_python_plus_c_start" then "extern_python_plus_c "
    else "function "
  match name with
  | some n => declare (key ++ n) (.type fp) (← fresh)
  | none => throw (.typeError "can only concatenate str (not \"NoneType\") to str")

/-- The digits of an integer constant node, if it has them. -/
def literalOf? : Option Node → Option String
  | some (.constant _ v _) => some v
  | _ => none

/-- Declares a variable or constant. -/
def declareOther (n : String) (r : Resolved) : DeclM Unit := do
  if (← book).insideExternPython != externPythonStop then
    throw (Source.cdefError "cannot declare constants or variables with 'extern \"Python\"'")
  if hasQual r.quals qConst && !r.type.isArray then
    declare ("constant " ++ n) (.type r.type) r.identity r.quals
  else declare ("variable " ++ n) (.type r.type) r.identity r.quals

/-- Declares a name of a type that is no function: an integer with an integer
literal as its value is the integer constant `macro n`, a `void` name starting
`__cffi_extern_python_` marks a group of functions implemented in the scripting
language, and anything else is a variable or constant. -/
def declareValue (n : String) (r : Resolved) (init : Option Node) : DeclM Unit :=
  match r.type.isInteger, literalOf? init, init with
  | true, some v, _ =>
    if isIntLiteral v then addIntegerConstant n v else declareOther n r
  | true, _, some (.unaryOp "-" e _) =>
    match literalOf? (some e) with
    | some v => if isIntLiteral v then addIntegerConstant n ("-" ++ v) else declareOther n r
    | none => declareOther n r
  | _, _, _ =>
    if (r.type matches .void) && n.startsWith "__cffi_extern_python_" then
      modifyBook fun b => { b with insideExternPython := n }
    else declareOther n r

/-- Reads one declaration of a variable, function or tag. -/
def parseDecl (name : Option String) (type : Node) (init : Option Node) : DeclM Unit := do
  match type with
  | .funcDecl .. =>
    let r ← typeAndQuals 100000 (some type) name false
    declareFunction r.type r.quals name
  | _ =>
    match type with
    | .aggregate isUnion .. =>
      discard (structUnionEnum 100000 (if isUnion then .union else .struct) type none false)
    | .enumType .. => discard (structUnionEnum 100000 .enum type none false)
    | _ =>
      if name.isNone then throw (Source.cdefError "construct does not declare any variable")
    let some n := name | return
    let r ← typeAndQuals 100000 (some type) none true
    if r.type.isRawFunction then declareFunction r.type r.quals name
    else declareValue n r init

/-- The failure of `...` where a type definition cannot have it. -/
def unsupportedDots {α : Type} (coord : Option Coord) : DeclM α := do
  match coord with
  | some c => throw (ffiError (":" ++ toString c.line ++ ": unsupported usage of \"...\" in typedef"))
  | none => throw (Failure.noAttribute "NoneType" "line")

/-- The type a definition `typedef ... T;`, `typedef int... T;` or
`typedef float... T;` declares. -/
def unknownType (name : String) (names : List String) (coord : Option Coord) : DeclM Resolved := do
  match names with
  | ["__dotdotdot__"] =>
    let id ← newTag { (Tag.fresh .struct ("$" ++ name)).forceName (some name) with placeholder := true }
    return ⟨.tagged id, 0, .tag id⟩
  | ["__dotdotdotint__"] =>
    modifyBook fun b => { b with
      usesNewFeature := b.usesNewFeature.orElse fun _ => some ("'typedef int... " ++ name ++ "'") }
    return ⟨.unknownInteger name, 0, ← fresh⟩
  | ["__dotdotdotfloat__"] =>
    modifyBook fun b => { b with
      usesNewFeature := b.usesNewFeature.orElse fun _ => some ("'typedef float... " ++ name ++ "'") }
    return ⟨.unknownFloat name, 0, ← fresh⟩
  | _ => unsupportedDots coord

/-- The type a definition `typedef ... *T;` declares. -/
def unknownPointerType (name : String) (names : List String) (coord : Option Coord) :
    DeclM Resolved := do
  if names == ["__dotdotdot__"] then
    let id ← newTag (Tag.fresh .struct ("$$" ++ name))
    return ⟨.namedPointer (.tagged id) name 0, 0, ← fresh⟩
  else unsupportedDots coord

/-- The last word of a type name, if the node is one. -/
def lastWord? : Option Node → Option String
  | some (.identifierType names _) => names.getLast?
  | _ => none

/-- The part of a declarator one step in. -/
def innerOf : Node → Option Node
  | .typeDecl _ _ t _ | .ptrDecl _ t _ | .arrayDecl t _ _ _ | .funcDecl _ t _ => t
  | _ => none

/-- Reads one type definition. -/
def parseTypedef (name : Option String) (type : Node) (coord : Option Coord) : DeclM Unit := do
  let some n := name | throw (Source.cdefError "typedef does not declare any name")
  let inner := innerOf type
  let dotted := fun (w : Option String) => (w.map (·.startsWith "__dotdotdot")).getD false
  let r ←
    if dotted (lastWord? inner) then
      match inner with
      | some (.identifierType names _) => unknownType n names coord
      | _ => unsupportedDots coord
    else
      match type, inner with
      | .ptrDecl .., some (t@(.typeDecl ..)) =>
        match innerOf t with
        | some (.identifierType names _) =>
          if dotted names.getLast? then unknownPointerType n names coord
          else typeAndQuals 100000 (some type) name true
        | _ => typeAndQuals 100000 (some type) name true
      | _, _ => typeAndQuals 100000 (some type) name true
  declare ("typedef " ++ n) (.type r.type) r.identity r.quals

/-- The prefix naming the place of a declaration in a refusal. -/
def placePrefix (decl : Node) : String :=
  match decl.coord with
  | some c => c.file ++ ":" ++ toString c.line ++ ": "
  | none => ""

/-- Reads one declaration of the tree after the preamble. -/
def readDeclaration (decl : Node) : DeclM Unit :=
  match decl with
  | .decl name _ _ _ type init _ _ => parseDecl name type init
  | .typedefDecl name _ _ type coord => parseTypedef name type coord
  | other => throw (Source.cdefError ("unexpected <" ++ other.kindName ++
      ">: this construct is valid C but not valid in cdef()"))

/-- Reads the declarations of the tree after the preamble; a refusal names the
place of the declaration refused. -/
def readDeclarations (items : List Node) : DeclM Unit := do
  for decl in items do
    tryCatch (readDeclaration decl) fun f =>
      if f.kind == "CDefError" then throw { f with message := placePrefix decl ++ f.message }
      else throw f

/-- Reads a source of foreign declarations into the book. -/
def internalParse (csource : String) : DeclM Unit := do
  let (ast, macros, _) ← parseC csource
  processMacros macros
  let items := match ast with
    | .fileAST ext _ => ext
    | _ => []
  let rest := (items.dropWhile fun d => nodeName? d != some "__dotdotdot__").drop 1
  if !(items.any fun d => nodeName? d == some "__dotdotdot__") then throw (.assertionError "")
  modifyBook fun b => { b with insideExternPython := externPythonStop }
  readDeclarations rest

end DeclM

/-- How structs of declarations are packed, from the options `packed` and `pack`. -/
def packingOf (packed : Bool) (pack : Int) : Except Failure Int :=
  if packed then
    if pack != 0 then .error (.valueError "cannot give both 'pack' and 'packed'") else .ok 1
  else if pack != 0 then
    if Integer.land pack (pack - 1) != 0 then
      .error (.valueError ("'pack' must be a power of two, not " ++ toString pack))
    else .ok pack
  else .ok 0

/-- Reads a source of foreign declarations with options, which hold for this
reading only. -/
def parseDeclarations (csource : String) (override : Bool) (pack : Int) (dllexport : Bool) :
    DeclM Unit := do
  let previous := (← DeclM.book).options
  DeclM.modifyBook fun b => { b with options := { override, packed := some pack, dllexport } }
  tryFinally (DeclM.internalParse csource)
    (DeclM.modifyBook fun b => { b with options := previous })

/-- Reads one type, with its qualifiers. -/
def parseTypeAndQuals (cdecl : String) : DeclM (CType × Nat) := do
  let (ast, macros, _) ← DeclM.parseC ("void __dummy(\n" ++ cdecl ++ "\n);")
  if !macros.isEmpty then throw (.assertionError "")
  let last := match ast with
    | .fileAST ext _ => ext.getLast?
    | _ => none
  let some last := last | throw Failure.listIndex
  let fn ← match last with
    | .decl _ _ _ _ t _ _ _ | .typedefDecl _ _ _ t _ => pure t
    | other => throw (Failure.noAttribute other.kindName "type")
  let params ← match fn with
    | .funcDecl (some (.paramList ps _)) _ _ => pure ps
    | .funcDecl none _ _ => throw (Failure.noAttribute "NoneType" "params")
    | other => throw (Failure.noAttribute other.kindName "args")
  let some first := params.head? | throw Failure.listIndex
  match first with
  | .ident n _ => throw (Source.cdefError ("unknown identifier '" ++ n ++ "'"))
  | .decl _ _ _ _ t _ _ _ | .typeName _ _ t _ =>
    let r ← DeclM.typeAndQuals 100000 (some t) none false
    return (r.type, r.quals)
  | other => throw (Failure.noAttribute other.kindName "type")

/-- Includes the types and integer constants of another book: its structs,
unions, enums, anonymous types and type definitions, the very objects. -/
def includeBook (other : Book) : DeclM Unit := do
  for (key, e) in other.entries do
    if key.startsWith "anonymous $enum_$" then continue
    let kind := (key.splitOn " ").headD ""
    if ["struct", "union", "enum", "anonymous", "typedef"].contains kind then
      DeclM.declare key e.value e.identity e.quals true
  for (k, v) in other.intConstants do
    DeclM.addConstant k v

end Basis.Foreign
