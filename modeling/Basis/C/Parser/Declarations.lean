import Basis.C.Parser.Basic

/-!
# Building declarations

A declaration of C is read in two parts: the specifiers (`Spec`), then the
declarators, each a chain that ends in the declared name. `buildDeclarations`
makes one node per declarator, and completes each chain: the innermost part
gets the qualifiers of the declaration and the base type named by the type
specifiers (`int` for a function declared without one).

A name that the scopes know as a type is read by the lexer as a type name, so
`typedef int T; void f(void) { int T; }` first looks like two type specifiers
and no declarator. When the last type specifier is a single type name, the
declaration takes it back as the declared name. A declaration with no
declarator and no such name is refused (`Invalid declaration`).
-/

namespace Basis.C

namespace Node

/-- The declared name of a declaration, type definition, type name, parameter name
or enumerator. -/
def name? : Node → Option String
  | .decl n .. | .typedefDecl n .. | .typeName n .. => n
  | .ident n _ | .enumerator n _ _ => some n
  | _ => none

/-- Sets the declared name of a declaration, type definition or type name. -/
def withName (n : Node) (name : Option String) : Node :=
  match n with
  | .decl _ q s f t i b c => .decl name q s f t i b c
  | .typedefDecl _ q s t c => .typedefDecl name q s t c
  | .typeName _ q t c => .typeName name q t c
  | n => n

/-- The qualifiers of a declaration, type definition or type name. -/
def declQuals : Node → List String
  | .decl _ q .. | .typedefDecl _ q .. | .typeName _ q .. => q
  | _ => []

/-- Whether a node is a `case` or `default` label. -/
def isCaseLike : Node → Bool
  | .caseLabel .. | .defaultLabel .. => true
  | _ => false

end Node

namespace Spec

/-- Adds a qualifier in front. -/
def addQual (s : Option Spec) (q : String) : Spec := let s := s.getD {}; { s with qual := q :: s.qual }

/-- Adds a storage class in front. -/
def addStorage (s : Option Spec) (q : String) : Spec :=
  let s := s.getD {}; { s with storage := q :: s.storage }

/-- Adds a function specifier in front. -/
def addFunction (s : Option Spec) (q : String) : Spec :=
  let s := s.getD {}; { s with function := q :: s.function }

/-- Adds a type specifier in front. -/
def addType (s : Option Spec) (t : Node) : Spec := let s := s.getD {}; { s with types := t :: s.types }

end Spec

namespace ParseM

/-- The names of a base type given by names. -/
def namesOf (n : Node) : ParseM (List String) :=
  match n with
  | .identifierType ns _ => pure ns
  | _ => noAttribute n.kindName "names"

/-- The innermost part of a declarator chain, failing as following a missing
link does. -/
def findTypeDecl (n : Node) : Nat → ParseM Node
  | 0 => noAttribute n.kindName "type"
  | fuel + 1 =>
    if n.isTypeDecl then pure n
    else match n.typeLink? with
      | some next => findTypeDecl next fuel
      | none =>
        match n with
        | .arrayDecl .. | .funcDecl .. | .ptrDecl .. => noAttribute "NoneType" "type"
        | .constant .. | .structRef .. => noAttribute "str" "type"
        | _ => noAttribute n.kindName "type"

/-- Completes a declaration, type definition or type name: its name becomes the
name in its declarator, and the innermost part of the declarator gets the
declaration's qualifiers and the base type of the type specifiers. -/
def fixDeclNameType (decl : Node) (typename : List Node) : ParseM Node := do
  let inner ← findTypeDecl decl Node.chainFuel
  let declname := match inner with
    | .typeDecl n _ _ _ => n
    | _ => none
  let quals := decl.declQuals
  let decl := decl.withName declname
  let base ← match typename.find? (fun t => !(t matches .identifierType ..)) with
    | some tn =>
      if typename.length > 1 then failAtCoord tn.coord "Invalid multiple types specified"
      else pure tn
    | none =>
      match typename with
      | [] =>
        let isFunction := match decl.typeLink? with
          | some (.funcDecl ..) => true
          | _ => false
        if !isFunction then failAtCoord decl.coord "Missing type in declaration"
        pure (.identifierType ["int"] decl.coord)
      | first :: _ => do
        let names ← typename.mapM namesOf
        pure (.identifierType names.flatten first.coord)
  return decl.mapInnermost (fun td => match td with
    | .typeDecl n _ _ c => .typeDecl n (some quals) (some base) c
    | other => other) Node.chainFuel

/-- Takes the declared name back from the type specifiers when the first
declarator lacks it. -/
def recoverName (spec : Spec) : List DeclItem → ParseM (Spec × List DeclItem)
  | [] => pure (spec, [])
  | first :: rest => do
    if first.bitsize.isSome then return (spec, first :: rest)
    match first.decl with
    | none =>
      let types := spec.types
      let invalid ← match types.getLast? with
        | some last =>
          if types.length < 2 then pure true
          else do
            let names ← namesOf last
            match names with
            | [n] => pure !(← isType (some n))
            | _ => pure true
        | none => pure true
      if invalid then
        failAt ((types.head?.map fun t => placeText t.coord).getD "?") "Invalid declaration"
      let some last := types.getLast? | throw Failure.listIndex
      let names ← namesOf last
      let some n := names.head? | throw Failure.listIndex
      return ({ spec with types := types.dropLast },
        { first with decl := some (.typeDecl (some n) none none last.coord) } :: rest)
    | some d =>
      if d.isPlainType then return (spec, first :: rest)
      match ← findTypeDecl d Node.chainFuel with
      | .typeDecl none _ _ _ =>
        let some last := spec.types.getLast? | throw Failure.listIndex
        let names ← namesOf last
        let some n := names.head? | throw Failure.listIndex
        let d' := d.mapInnermost (fun td => match td with
          | .typeDecl _ q t c => .typeDecl (some n) q t c
          | other => other) Node.chainFuel
        return ({ spec with types := spec.types.dropLast }, { first with decl := some d' } :: rest)
      | _ => return (spec, first :: rest)

/-- Builds one declaration per declarator, all with the same specifiers. With
`intoScope`, each declared name is recorded in the innermost scope, as a type
name for a type definition. -/
def buildDeclarations (spec : Spec) (decls : List DeclItem) (intoScope : Bool := false) :
    ParseM (List Node) := do
  let isTypedef := spec.storage.contains "typedef"
  let (spec, decls) ← recoverName spec decls
  decls.mapM fun item => do
    let some d := item.decl | throw (.assertionError "")
    let declaration :=
      if isTypedef then Node.typedefDecl none spec.qual spec.storage d d.coord
      else Node.decl none spec.qual spec.storage spec.function d item.init item.bitsize d.coord
    let fixed ← if d.isPlainType then pure declaration else fixDeclNameType declaration spec.types
    if intoScope then
      if isTypedef then addTypedefName fixed.name? fixed.coord
      else addIdentifier fixed.name? fixed.coord
    pure fixed

/-- Builds a function definition from its specifiers, declarator, parameter
declarations of the old style and body. -/
def buildFunctionDefinition (spec : Spec) (decl : Node) (paramDecls : Option (List Node))
    (body : Node) : ParseM Node := do
  if spec.storage.contains "typedef" then throw (.assertionError "")
  let decls ← buildDeclarations spec [⟨some decl, none, none⟩] true
  let some declaration := decls.head? | throw Failure.listIndex
  return .funcDef declaration paramDecls body decl.coord

/-- Adds modifiers to a declarator, nearest to its name. -/
def modifyDecl (decl modifier : Node) : Node := decl.insertAboveName modifier Node.chainFuel

end ParseM

end Basis.C
