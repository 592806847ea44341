import Basis.Foreign.State
import Basis.Value.Repr

/-!
# Reading types from declarators

`typeAndQuals` turns a declarator of the C parser into a `CType` and its
qualifiers:

* a single word declared by a type definition is that definition's type, the
  very object, with the qualifiers of both;
* an array's length must be a constant: a number, a character, a known integer
  constant, or sums and differences of those; `[...]` is allowed where a
  compiler can fill it in;
* the words of a primitive type are put in one order (`long unsigned int`
  is `unsigned long`), and a word must name a primitive or common type;
* a struct, union or enum is looked up by its tag, and made if new. Its members
  are read where its braces are: declaring them twice is refused, and `...;`
  among them leaves it partial, which only a struct or union with a C name may
  be. An anonymous one takes its name from the type definition it is declared in,
  or a number;
* a function type reads its parameters, of which `...` may only be the last and
  not the only one, and an array or function parameter is a pointer. The
  qualifiers `volatile volatile const` on the result mark the calling
  convention of the system's libraries.

A node may be shared by several declarators (`struct { int x; } a, b;`); the
struct made for it the first time is the one used for all of them.
-/

namespace Basis.Foreign

open C

/-- A type read from a declarator, with its qualifiers and the object it is. -/
structure Resolved where
  /-- The type. -/
  type : CType
  /-- The qualifiers. -/
  quals : Nat := 0
  /-- Which object the type is. -/
  identity : Identity
  deriving Inhabited

namespace DeclM

/-- The failure of running out of nesting depth. -/
def tooDeep {α : Type} : DeclM α := throw ⟨"RecursionError", "maximum recursion depth exceeded"⟩

/-- The line of a node, failing as reading a missing place does. -/
def lineOf (n : Option Node) : DeclM Nat :=
  match n with
  | none => throw (Failure.noAttribute "NoneType" "coord")
  | some n =>
    match n.coord with
    | some c => pure c.line
    | none => throw (Failure.noAttribute "NoneType" "line")

/-- The bits of a list of qualifier words. -/
def qualBits (qs : List String) : Nat :=
  (if qs.contains "const" then qConst else 0) ||| (if qs.contains "restrict" then qRestrict else 0) |||
    (if qs.contains "volatile" then qVolatile else 0)

/-- The qualifiers of the outermost part of a declarator. -/
def extractQuals : Node → DeclM Nat
  | .typeDecl _ (some qs) _ _ => pure (qualBits qs)
  | .typeDecl _ none _ _ => throw (.typeError "argument of type 'NoneType' is not iterable")
  | .ptrDecl qs _ _ => pure (qualBits qs)
  | _ => pure 0

/-- The words of a primitive type in their chosen order: `unsigned`, `short` and
`long` first, `signed` dropped, and `int` implied alone and dropped after
`short` or `long`. `signed char` stays as it is. -/
def normalizeNames (names : List String) : List String :=
  if names == ["signed", "char"] then names
  else
    let isPrefix := fun (w : String) => w == "short" || w == "long" || w == "signed" || w == "unsigned"
    let prefixes := names.takeWhile isPrefix
    let rest := names.drop prefixes.length
    let count := fun (w : String) => prefixes.count w
    let front := List.replicate (count "unsigned") "unsigned" ++ List.replicate (count "short") "short" ++
      List.replicate (count "long") "long"
    let rest := if rest.isEmpty then ["int"] else rest
    let rest := if rest == ["int"] && (count "short" > 0 || count "long" > 0) then [] else rest
    front ++ rest

/-- The type a primitive or common type name stands for. -/
def resolveCommon (ident : String) : DeclM Resolved :=
  if ident == "FILE" then pure ⟨.tagged 0, 0, .common ident⟩
  else
    let name := if ident == "bool" then "_Bool" else ident
    if (numericOf? name).isSome then pure ⟨.primitive name, 0, .common ident⟩
    else throw (ffiError ("Unsupported type: " ++ Value.strRepr ident ++
      ".  Please look at http://cffi.readthedocs.io/en/latest/cdef.html#ffi-cdef-limitations " ++
      "and file an issue if you think this type should really be supported."))

/-- Whether a name is a number after `$`, the name of an anonymous type. -/
def isNumberedName (name : String) : Bool :=
  let digits := (name.drop 1).toString
  name.startsWith "$" && !digits.isEmpty && digits.all Char.isDigit

/-- The pointer to a type. A function type gives the pointer to the function; an
anonymous numbered struct pointed to by a type definition is spelled by the
definition's name. -/
def typePointer (t : CType) (quals : Nat) (declname : Option String) : DeclM CType := do
  let tags ← tags
  match t with
  | .function false .. => pure (t.asFunctionPointer tags)
  | .tagged id =>
    let tg ← getTag id
    match declname with
    | some n =>
      if isNumberedName tg.name && tg.forcename.isNone then pure (.namedPointer t n quals)
      else pure (CType.pointerTo tags t quals)
    | none => pure (CType.pointerTo tags t quals)
  | _ => pure (CType.pointerTo tags t quals)

/-- The type of a parameter: arrays and functions are passed as pointers. -/
def asFuncArg (t : CType) (quals : Nat) : DeclM CType := do
  match t with
  | .array item .. => pure (CType.pointerTo (← tags) item quals)
  | .function false .. => pure (t.asFunctionPointer (← tags))
  | _ => pure t

/-- The value of a constant expression: numbers and characters, known integer
constants, signs, sums and differences. -/
def parseConstant : Nat → Node → DeclM Int
  | 0, _ => tooDeep
  | fuel + 1, node => do
    match node with
    | .constant _ s _ =>
      let cs := s.toList
      match cs with
      | '0' :: rest =>
        match rest with
        | 'x' :: _ | 'X' :: _ => readIntIn s 16
        | _ => readIntIn s 8
      | c :: _ =>
        if '1' ≤ c && c ≤ '9' then readIntIn s 10
        else if c == '\'' && cs.getLast? == some '\'' &&
            (cs.length == 3 || (cs.length == 4 && cs[1]? == some '\\')) then
          pure ((cs.getD (cs.length - 2) ' ').toNat : Int)
        else throw (Source.cdefError ("invalid constant " ++ Value.strRepr s))
      | [] => throw (.indexError "string index out of range")
    | .unaryOp "+" e _ => parseConstant fuel e
    | .unaryOp "-" e _ => return -(← parseConstant fuel e)
    | .ident n _ =>
      match (← book).intConstants.find? (·.1 == n) with
      | some (_, v) => pure v
      | none =>
        if n == "__dotdotdotarray__" then
          throw (ffiError (":" ++ toString (← lineOf node) ++
            ": unsupported '[...]' here, cannot derive the actual array length in this context"))
        else unsupportedConstant node
    | .binaryOp "+" l r _ => return (← parseConstant fuel l) + (← parseConstant fuel r)
    | .binaryOp "-" l r _ => return (← parseConstant fuel l) - (← parseConstant fuel r)
    | _ => unsupportedConstant node
where
  /-- The failure of an expression that is not a simple constant. -/
  unsupportedConstant {α : Type} (node : Node) : DeclM α := do
    throw (ffiError (":" ++ toString (← lineOf node) ++
      ": unsupported expression: expected a simple numeric constant"))

/-- The length of an array: a constant, or `[...]` where a compiler may fill it in. -/
def parseLength (node : Node) (partialOk : Bool) : DeclM ArrayLength := do
  match node with
  | .ident "__dotdotdotarray__" _ =>
    if ((← book).intConstants.find? (·.1 == "__dotdotdotarray__")).isNone && partialOk then
      modify fun w => { w with partialLength := true }
      return .deferred
    else return .fixed (← parseConstant 100000 node)
  | _ => return .fixed (← parseConstant 100000 node)

/-- Whether an enumerator stands for those left to a compiler. -/
def isEnumDots (name : String) : Bool := (Pattern.matchAt Source.enumDots name.toList.toArray 0).isSome

/-- Makes an enum of its enumerators, numbering them from 0 or from the last
value given, and declaring each as an integer constant. -/
def buildEnum (explicitName : String) (values : Option Node) : DeclM Nat := do
  match values with
  | some (.enumeratorList items _) =>
    let mut isPartial := false
    let mut names : List String := []
    let mut numbers : List Int := []
    let mut next : Int := 0
    for item in items do
      let (n, v) := match item with
        | .enumerator n v _ => (n, v)
        | _ => ("", none)
      if isEnumDots n then
        isPartial := true
      else
        if let some e := v then next ← parseConstant 100000 e
        names := names ++ [n]
        numbers := numbers ++ [next]
        addConstant n next
        next := next + 1
    newTag { Tag.fresh .enum explicitName with enumerators := names, enumvalues := numbers, isPartial }
  | _ => newTag (Tag.fresh .enum explicitName)

/-- Marks a struct or union as partial. -/
def makePartial (id : Nat) (nested : Bool) : DeclM Unit := do
  let t ← getTag id
  if t.kind == .enum then throw (Source.cdefError ("<" ++ t.spelling ++ "> cannot be partial"))
  if !t.hasCName && !nested then
    throw (.notImplemented ("<" ++ t.spelling ++ "> is partial but has no C name"))
  setTag id { t with isPartial := true }

/-- The type of a parameter or member node. -/
def typeOfMember : Node → Option Node
  | .decl _ _ _ _ t _ _ _ => some t
  | .typeName _ _ t _ => some t
  | _ => none

/-- Whether a member is `...;`, which leaves a struct partial. -/
def isDotsMember : Option Node → Bool
  | some (.identifierType names _) => String.join names == "__dotdotdot__"
  | _ => false

/-- Whether a parameter is `...`. -/
def isDotsParam (p : Node) : Bool :=
  match typeOfMember p with
  | some (.typeDecl _ _ (some (.identifierType ["__dotdotdot__"] _)) _) => true
  | _ => false

/-- The parameters a function declarator lists; `f()` lists none. -/
def parametersOf : Option Node → List Node
  | some (.paramList ps _) => ps
  | _ => []

/-- Whether a list of parameters ends in `...`. -/
def endsInDots (params : List Node) : Bool :=
  match params.getLast? with
  | some p => isDotsParam p
  | none => false

/-- The name the errors of a function are reported under: its own, or
`in expression` for a function type without one. -/
def functionLabel : Option String → String
  | some f => if f.isEmpty then "in expression" else f
  | none => "in expression"

/-- The failure of a declarator of no supported kind. -/
def unsupportedType {α : Type} (node : Option Node) : DeclM α := do
  throw (ffiError (":" ++ toString (← lineOf node) ++ ": bad or unsupported type declaration"))

/-- The struct, union or enum of a tag: the one its key is bound to, or a new one,
declared under its key. An anonymous one takes its name from the type definition
it is declared in, or a number. -/
def findTag (kind : TagKind) (name : Option String) (values : Option Node) (forceName : Option String) :
    DeclM Nat := do
  let (explicitName, existing) ← match name with
    | none =>
      match forceName with
      | some f => pure ("$" ++ f, none)
      | none => do
        modifyBook fun b => { b with anonymous := b.anonymous + 1 }
        pure ("$" ++ toString (← book).anonymous, none)
    | some n => do
      let e ← lookup (kind.word ++ " " ++ n)
      pure (n, e.bind fun e => match e.value with
        | .type (.tagged id) => some id
        | _ => none)
  match existing with
  | none => do
    let id ← match kind with
      | .enum =>
        if explicitName == "__dotdotdot__" then
          throw (Source.cdefError "Enums cannot be declared with ...")
        buildEnum explicitName values
      | _ => newTag (Tag.fresh kind explicitName)
    if let some n := name then declare (kind.word ++ " " ++ n) (.type (.tagged id)) (.tag id)
    pure id
  | some id => do
    if kind == .enum && values.isSome then
      throw (.notImplemented ("enum " ++ explicitName ++
        ": the '\x7b\x7d' declaration should appear on the first time the enum is mentioned, not later"))
    pure id

/-- Names a struct, union or enum after the type definition it is declared in,
declares it as anonymous if it has no tag, and remembers it as the type of its
node. Gives the tag as it then is. -/
def nameTag (id : Nat) (forceName : Option String) (key : Nat) : DeclM Tag := do
  let t ← getTag id
  if t.forcename.isNone then setTag id (t.forceName forceName)
  let t ← getTag id
  if let some f := t.forcename then
    if t.name.contains '$' then declare ("anonymous " ++ f) (.type (.tagged id)) (.tag id)
  modify fun w => { w with seen := (key, id) :: w.seen }
  return t

/-- Reads the members of a struct or union, `resolve` reading the type of each;
`...;`, a length left to a compiler, or a partial struct member makes it partial. -/
def readMembers (resolve : Option Node → DeclM Resolved) (id : Nat) (nested : Bool) (members : List Node) :
    DeclM (List Field) := do
  let mut fields : List Field := []
  for member in members do
    let mtype := typeOfMember member
    if isDotsMember mtype then
      makePartial id nested
    else
      let (mname, mbits) := match member with
        | .decl n _ _ _ _ _ b _ => (n, b)
        | _ => (none, none)
      let bitsize ← match mbits with
        | none => pure (-1 : Int)
        | some b => parseConstant 100000 b
      modify fun w => { w with partialLength := false }
      let r ← resolve mtype
      if (← get).partialLength then makePartial id nested
      if let .tagged fid := r.type then
        let ft ← getTag fid
        if ft.kind == .struct && ft.isPartial then makePartial id nested
      fields := fields ++ [⟨mname.getD "", r.type, bitsize, r.quals⟩]
  return fields

/-- Gives a struct or union `t`, entry `id` of the table, its members: a second
body is refused. -/
def completeTag (resolve : Option Node → DeclM Resolved) (id : Nat) (nested : Bool) (name : Option String)
    (t : Tag) (members : List Node) : DeclM Unit := do
  if t.fields.isSome then throw (Source.cdefError ("duplicate declaration of struct " ++ name.getD "None"))
  let fields ← readMembers resolve id nested members
  let t := { (← getTag id) with fields := some fields }
  setTag id t
  if fields.any (·.bitsize != -1) && t.kind == .struct && t.isPartial then
    throw (.notImplemented ("<" ++ t.spelling ++ ">: using both bitfields and '...;'"))
  setTag id { t with packed := (← book).options.packed }

mutual

/-- The type and qualifiers of a declarator; `name` is the declared name, and
`partialOk` allows array lengths left to a compiler. -/
def typeAndQuals : Nat → Option Node → Option String → Bool → DeclM Resolved
  | 0, _, _, _ => tooDeep
  | fuel + 1, node, name, partialOk => do
    let known ← match node with
      | some (n@(.typeDecl _ _ (some (.identifierType [word] _)) _)) => do
        match ← lookup ("typedef " ++ word) with
        | some { value := .type t, quals, identity } =>
          pure (some (⟨t, quals ||| (← extractQuals n), identity⟩ : Resolved))
        | _ => pure none
      | _ => pure none
    if let some r := known then return r
    match node with
    | some (.arrayDecl inner dim _ _) =>
      let length ← match dim with
        | none => pure ArrayLength.open
        | some d => parseLength d partialOk
      let item ← typeAndQuals fuel inner none partialOk
      return ⟨CType.arrayOf (← tags) item.type length, item.quals, ← fresh⟩
    | some (n@(.ptrDecl _ inner _)) =>
      let item ← typeAndQuals fuel inner none false
      let t ← typePointer item.type item.quals name
      return ⟨t, ← extractQuals n, ← fresh⟩
    | some (n@(.typeDecl _ _ inner _)) =>
      let quals ← extractQuals n
      match inner with
      | some (.identifierType names _) =>
        let ident := " ".intercalate (normalizeNames names)
        if ident == "void" then return ⟨.void, quals, .void⟩
        if ident == "__dotdotdot__" then
          throw (ffiError (":" ++ toString (← lineOf node) ++ ": bad usage of \"...\""))
        let r ← resolveCommon ident
        return { r with quals := quals ||| r.quals }
      | some (t@(.aggregate isUnion ..)) =>
        let id ← structUnionEnum fuel (if isUnion then .union else .struct) t name false
        return ⟨.tagged id, quals, .tag id⟩
      | some (t@(.enumType ..)) =>
        let id ← structUnionEnum fuel .enum t name false
        return ⟨.tagged id, quals, .tag id⟩
      | _ => unsupportedType node
    | some (n@(.funcDecl ..)) => return ⟨← functionType fuel n name, 0, ← fresh⟩
    | some (t@(.aggregate isUnion ..)) =>
      let id ← structUnionEnum fuel (if isUnion then .union else .struct) t name true
      return ⟨.tagged id, 0, .tag id⟩
    | _ => unsupportedType node

/-- The struct, union or enum of a node, made or completed as the node says;
`forceName` is the name of the type definition it is declared in, and `nested`
tells a member of another struct. -/
def structUnionEnum : Nat → TagKind → Node → Option String → Bool → DeclM Nat
  | 0, _, _, _, _ => tooDeep
  | fuel + 1, kind, node, forceName, nested => do
    let key := match node with
      | .aggregate _ _ _ serial _ | .enumType _ _ serial _ => serial
      | _ => 0
    if let some (_, id) := (← get).seen.find? (·.1 == key) then return id
    let (name, values, members) := match node with
      | .aggregate _ n ms _ _ => (n, none, ms)
      | .enumType n vs _ _ => (n, vs, none)
      | _ => (none, none, none)
    let id ← findTag kind name values forceName
    let t ← nameTag id forceName key
    if kind == .enum then return id
    let some members := members | return id
    completeTag (fun m => typeAndQuals fuel m none true) id nested name t members
    return id

/-- The function type of a function declarator named `funcname`. -/
def functionType : Nat → Node → Option String → DeclM CType
  | 0, _, _ => tooDeep
  | fuel + 1, node, funcname => do
    let (args, result) := match node with
      | .funcDecl a r _ => (a, r)
      | _ => (none, none)
    let params := parametersOf args
    let label := functionLabel funcname
    for (p, i) in params.zipIdx do
      if (typeOfMember p).isNone then
        let pname := match p with
          | .ident n _ => n
          | _ => "?"
        throw (Source.cdefError (label ++ " arg " ++ toString (i + 1) ++ ": unknown type '" ++ pname ++
          "' (if you meant to use the old C syntax of giving untyped arguments, it is not supported)"))
    let ellipsis := endsInDots params
    let params := if ellipsis then params.dropLast else params
    if ellipsis && params.isEmpty then
      throw (Source.cdefError (label ++ ": a function with only '(...)' as argument is not correct C"))
    let mut argTypes : List CType := []
    for p in params do
      let r ← typeAndQuals fuel (typeOfMember p) none false
      argTypes := argTypes ++ [← asFuncArg r.type r.quals]
    let finalArgs := match ellipsis, argTypes with
      | false, [.void] => []
      | _, ts => ts
    let res ← typeAndQuals fuel result none false
    let stdcall := ["volatile", "volatile", "const"]
    let abi := match result with
      | some (.typeDecl _ (some qs) _ _) | some (.ptrDecl qs _ _) =>
        if qs.drop (qs.length - 3) == stdcall then some "__stdcall" else none
      | _ => none
    return CType.functionOf (← tags) false finalArgs res.type ellipsis abi

end

end DeclM

end Basis.Foreign
