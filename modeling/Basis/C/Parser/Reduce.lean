import Basis.C.Parser.Declarations
import Basis.C.Grammar

/-!
# What each production of C builds

`reduce` gives the value of a production from the values of the symbols on
its right side: nodes of the syntax tree, lists of them, or the parts of a
declaration on their way to `buildDeclarations`. A terminal's value is the text
of its token; the line of a terminal gives the place of the nodes built from
it, while a nonterminal has no line and gives line 0.

Some productions also act on the scopes: a declaration records its names, an
enumerator its name, and the parameters of a function declarator are recorded
in the scope of the function's body when the token after the declarator is the
opening brace of that body.

`fixSwitchCases` puts the statements that follow a `case` label inside it, and
lifts labels that follow each other out of each other, so that every label of
a `switch` holds its own statements.
-/

namespace Basis.C

/-- A symbol on the parser's stack: its value and, for a terminal, its line. -/
structure Entry where
  /-- The value. -/
  sem : Sem
  /-- The line of a terminal; 0 for a nonterminal. -/
  line : Nat := 0
  deriving Inhabited

namespace ParseM

/-- The failure of a value of an unexpected kind on the stack. -/
def unexpected {α : Type} : ParseM α := throw ⟨"SystemError", "unexpected value on the parser stack"⟩

/-- A node value. -/
def asNode : Sem → ParseM Node
  | .node n => pure n
  | _ => unexpected

/-- A node value or nothing. -/
def asOptNode : Sem → ParseM (Option Node)
  | .node n => pure (some n)
  | .none => pure none
  | _ => unexpected

/-- A list of nodes. -/
def asNodes : Sem → ParseM (List Node)
  | .nodes ns => pure ns
  | _ => unexpected

/-- A list of nodes or nothing. -/
def asOptNodes : Sem → ParseM (Option (List Node))
  | .nodes ns => pure (some ns)
  | .none => pure none
  | _ => unexpected

/-- Specifiers. -/
def asSpec : Sem → ParseM Spec
  | .spec s => pure s
  | _ => unexpected

/-- Specifiers or nothing. -/
def asOptSpec : Sem → ParseM (Option Spec)
  | .spec s => pure (some s)
  | .none => pure none
  | _ => unexpected

/-- A text. -/
def asText : Sem → ParseM String
  | .text s => pure s
  | _ => unexpected

/-- A list of words, nothing giving the empty list. -/
def asWords : Sem → ParseM (List String)
  | .words ws => pure ws
  | .none => pure []
  | _ => unexpected

/-- Declarators with initializers. -/
def asItems : Sem → ParseM (List DeclItem)
  | .items ds => pure ds
  | _ => unexpected

/-- A declarator with its initializer. -/
def asItem : Sem → ParseM DeclItem
  | .item d => pure d
  | _ => unexpected

/-- The statements of a label. -/
def labelStmts : Node → List Node
  | .caseLabel _ s _ | .defaultLabel s _ => s
  | _ => []

/-- A label with other statements. -/
def withStmts (n : Node) (s : List Node) : Node :=
  match n with
  | .caseLabel e _ c => .caseLabel e s c
  | .defaultLabel _ c => .defaultLabel s c
  | n => n

/-- A label followed by the labels nested in it, each taken out of the one
before, at most `fuel` deep. -/
def unnestCase (n : Node) : Nat → ParseM (List Node)
  | 0 => pure [n]
  | fuel + 1 =>
    match labelStmts n with
    | [] => throw Failure.listIndex
    | first :: _ =>
      if first.isCaseLike then do
        let s := labelStmts n
        let some inner := s.getLast? | throw Failure.listIndex
        let rest ← unnestCase inner fuel
        return withStmts n s.dropLast :: rest
      else pure [n]

/-- Gives each label of a `switch` body the statements up to the next label. -/
def fixSwitchCases (sw : Node) : ParseM Node := do
  match sw with
  | .switchStmt cond (.compound items bc) c =>
    let some items := items | throw (.typeError "'NoneType' object is not iterable")
    let step := fun (acc : List Node × Bool) (child : Node) => do
      let (out, inCase) := acc
      if child.isCaseLike then
        let labels ← unnestCase child Node.chainFuel
        pure (out ++ labels, true)
      else if inCase then
        match out.getLast? with
        | some last => pure (out.dropLast ++ [withStmts last (labelStmts last ++ [child])], true)
        | none => pure (out ++ [child], inCase)
      else pure (out ++ [child], false)
    let (out, _) ← items.foldlM step ([], false)
    return .switchStmt cond (.compound (some out) bc) c
  | other => pure other

/-- Whether the last token read opens a brace. -/
def lookaheadIsBrace : ParseM Bool := do
  match (← get).lastToken with
  | some t => return t.kind == .punct "\x7b"
  | none => noAttribute "NoneType" "type"

/-- Records the parameters of a function declarator in the innermost scope, up
to a `...`. -/
def declareParams : List Node → ParseM Unit
  | [] => pure ()
  | p :: rest =>
    match p with
    | .ellipsisParam _ => pure ()
    | _ => do
      addIdentifier p.name? p.coord
      declareParams rest

/-- The value of a production from the values of its right side. -/
def reduce (prod : Grammar.Production) (args : Array Entry) : ParseM Sem := do
  let s := fun (i : Nat) => (args.getD (i - 1) default).sem
  let line := fun (i : Nat) => (args.getD (i - 1) default).line
  let at_ := fun (i : Nat) => coordAt (line i)
  let lhs := prod.lhs
  if lhs.endsWith "_opt" then return s 1
  match lhs, prod.rhs with
  | "translation_unit_or_empty", _ =>
    match s 1 with
    | .nodes ns => return .node (.fileAST ns none)
    | _ => return .node (.fileAST [] none)
  | "translation_unit", [_] => return s 1
  | "translation_unit", [_, _] =>
    match s 1, s 2 with
    | u, .none => return u
    | .nodes a, .nodes b => return .nodes (a ++ b)
    | .none, _ => noAttribute "NoneType" "extend"
    | _, _ => unexpected
  | "external_declaration", ["function_definition"] => return .nodes [← asNode (s 1)]
  | "external_declaration", ["SEMI"] => return .none
  | "external_declaration", _ => return s 1
  | "pp_directive", _ => failAtCoord (← at_ 1) "Directives not supported yet"
  | "function_definition", [_, _, _] =>
    let spec : Spec := { types := [.identifierType ["int"] (← at_ 1)] }
    return .node (← buildFunctionDefinition spec (← asNode (s 1)) (← asOptNodes (s 2)) (← asNode (s 3)))
  | "function_definition", _ =>
    return .node (← buildFunctionDefinition (← asSpec (s 1)) (← asNode (s 2)) (← asOptNodes (s 3))
      (← asNode (s 4)))
  | "statement", _ => return s 1
  | "decl_body", _ =>
    let spec ← asSpec (s 1)
    match s 2 with
    | .none =>
      match spec.types with
      | [t] =>
        if t matches .aggregate .. || t matches .enumType .. then
          return .nodes [.decl none spec.qual spec.storage spec.function t none none t.coord]
        else return .nodes (← buildDeclarations spec [⟨none, none, none⟩] true)
      | _ => return .nodes (← buildDeclarations spec [⟨none, none, none⟩] true)
    | other => return .nodes (← buildDeclarations spec (← asItems other) true)
  | "declaration", _ => return s 1
  | "declaration_list", [_] => return s 1
  | "declaration_list", _ => return .nodes ((← asNodes (s 1)) ++ (← asNodes (s 2)))
  | "declaration_specifiers", ["type_qualifier", _] => return .spec (Spec.addQual (← asOptSpec (s 2)) (← asText (s 1)))
  | "declaration_specifiers", ["type_specifier", _] => return .spec (Spec.addType (← asOptSpec (s 2)) (← asNode (s 1)))
  | "declaration_specifiers", ["storage_class_specifier", _] =>
    return .spec (Spec.addStorage (← asOptSpec (s 2)) (← asText (s 1)))
  | "declaration_specifiers", _ => return .spec (Spec.addFunction (← asOptSpec (s 2)) (← asText (s 1)))
  | "storage_class_specifier", _ | "function_specifier", _ | "type_qualifier", _ => return s 1
  | "type_specifier", [t] =>
    if t == "typedef_name" || t == "enum_specifier" || t == "struct_or_union_specifier" then return s 1
    else return .node (.identifierType [← asText (s 1)] (← at_ 1))
  | "init_declarator_list", ["init_declarator"] => return .items [← asItem (s 1)]
  | "init_declarator_list", ["init_declarator_list", _, _] => return .items ((← asItems (s 1)) ++ [← asItem (s 3)])
  | "init_declarator_list", ["EQUALS", _] => return .items [⟨none, some (← asNode (s 2)), none⟩]
  | "init_declarator_list", _ => return .items [⟨some (← asNode (s 1)), none, none⟩]
  | "init_declarator", [_] => return .item ⟨some (← asNode (s 1)), none, none⟩
  | "init_declarator", _ => return .item ⟨some (← asNode (s 1)), some (← asNode (s 3)), none⟩
  | "specifier_qualifier_list", ["type_qualifier", _] => return .spec (Spec.addQual (← asOptSpec (s 2)) (← asText (s 1)))
  | "specifier_qualifier_list", _ => return .spec (Spec.addType (← asOptSpec (s 2)) (← asNode (s 1)))
  | "struct_or_union_specifier", [_, _] =>
    return .node (.aggregate ((← asText (s 1)) == "union") (some (← asText (s 2))) none (← nextSerial) (← at_ 2))
  | "struct_or_union_specifier", [_, _, _, _] =>
    return .node (.aggregate ((← asText (s 1)) == "union") none (some (← asNodes (s 3))) (← nextSerial) (← at_ 2))
  | "struct_or_union_specifier", _ =>
    return .node (.aggregate ((← asText (s 1)) == "union") (some (← asText (s 2))) (some (← asNodes (s 4)))
      (← nextSerial) (← at_ 2))
  | "struct_or_union", _ => return s 1
  | "struct_declaration_list", [_] => return s 1
  | "struct_declaration_list", _ => return .nodes ((← asNodes (s 1)) ++ (← asNodes (s 2)))
  | "struct_declaration", [_, "struct_declarator_list_opt", _] =>
    let spec ← asSpec (s 1)
    if spec.storage.contains "typedef" then throw (.assertionError "")
    match s 2 with
    | .none =>
      match spec.types with
      | [t] => return .nodes (← buildDeclarations spec [⟨some t, none, none⟩])
      | _ => return .nodes (← buildDeclarations spec [⟨none, none, none⟩])
    | other => return .nodes (← buildDeclarations spec (← asItems other))
  | "struct_declaration", _ =>
    return .nodes (← buildDeclarations (← asSpec (s 1)) [⟨some (← asNode (s 2)), none, none⟩])
  | "struct_declarator_list", [_] => return .items [← asItem (s 1)]
  | "struct_declarator_list", _ => return .items ((← asItems (s 1)) ++ [← asItem (s 3)])
  | "struct_declarator", ["declarator"] => return .item ⟨some (← asNode (s 1)), none, none⟩
  | "struct_declarator", ["declarator", _, _] => return .item ⟨some (← asNode (s 1)), none, some (← asNode (s 3))⟩
  | "struct_declarator", _ => return .item ⟨some (.typeDecl none none none none), none, some (← asNode (s 2))⟩
  | "enum_specifier", [_, _] => return .node (.enumType (some (← asText (s 2))) none (← nextSerial) (← at_ 1))
  | "enum_specifier", [_, _, _, _] =>
    return .node (.enumType none (some (← asNode (s 3))) (← nextSerial) (← at_ 1))
  | "enum_specifier", _ =>
    return .node (.enumType (some (← asText (s 2))) (some (← asNode (s 4))) (← nextSerial) (← at_ 1))
  | "enumerator_list", [_] =>
    let e ← asNode (s 1)
    return .node (.enumeratorList [e] e.coord)
  | "enumerator_list", [_, _] => return s 1
  | "enumerator_list", _ =>
    match ← asNode (s 1) with
    | .enumeratorList es c => return .node (.enumeratorList (es ++ [← asNode (s 3)]) c)
    | _ => unexpected
  | "enumerator", _ =>
    let name ← asText (s 1)
    let value ← if prod.rhs.length == 3 then pure (some (← asNode (s 3))) else pure none
    let c ← at_ 1
    addIdentifier (some name) c
    return .node (.enumerator name value c)
  | "declarator", ["direct_declarator"] => return s 1
  | "declarator", ["pointer", "direct_declarator"] => return .node (modifyDecl (← asNode (s 2)) (← asNode (s 1)))
  | "declarator", _ =>
    let d := Node.typeDecl (some (← asText (s 2))) none none (← at_ 2)
    return .node (modifyDecl d (← asNode (s 1)))
  | "direct_declarator", ["ID"] => return .node (.typeDecl (some (← asText (s 1))) none none (← at_ 1))
  | "direct_declarator", ["LPAREN", _, _] => return s 2
  | "direct_declarator", [_, "LBRACKET", "type_qualifier_list_opt", "assignment_expression_opt", _] =>
    let d ← asNode (s 1)
    return .node (modifyDecl d (.arrayDecl none (← asOptNode (s 4)) (← asWords (s 3)) d.coord))
  | "direct_declarator", [_, _, "STATIC", _, _, _] =>
    let d ← asNode (s 1)
    return .node (modifyDecl d (.arrayDecl none (← asOptNode (s 5)) ("static" :: (← asWords (s 4))) d.coord))
  | "direct_declarator", [_, _, "type_qualifier_list", "STATIC", _, _] =>
    let d ← asNode (s 1)
    return .node (modifyDecl d (.arrayDecl none (← asOptNode (s 5)) ((← asWords (s 3)) ++ ["static"]) d.coord))
  | "direct_declarator", [_, _, _, "TIMES", _] =>
    let d ← asNode (s 1)
    let star := Node.ident (← asText (s 4)) (← at_ 4)
    return .node (modifyDecl d (.arrayDecl none (some star) (← asWords (s 3)) d.coord))
  | "direct_declarator", _ =>
    let d ← asNode (s 1)
    let args ← asOptNode (s 3)
    let func := Node.funcDecl args none d.coord
    if ← lookaheadIsBrace then
      match args with
      | some (.paramList ps _) => declareParams ps
      | _ => pure ()
    return .node (modifyDecl d func)
  | "pointer", _ =>
    let c ← at_ 1
    let nested := Node.ptrDecl (← asWords (s 2)) none c
    if prod.rhs.length == 3 then
      return .node (Node.attachBelow (← asNode (s 3)) nested Node.chainFuel)
    else return .node nested
  | "type_qualifier_list", [_] => return .words [← asText (s 1)]
  | "type_qualifier_list", _ => return .words ((← asWords (s 1)) ++ [← asText (s 2)])
  | "parameter_type_list", [_] => return s 1
  | "parameter_type_list", _ =>
    match ← asNode (s 1) with
    | .paramList ps c => return .node (.paramList (ps ++ [.ellipsisParam (← at_ 3)]) c)
    | _ => unexpected
  | "parameter_list", [_] | "identifier_list", [_] =>
    let p ← asNode (s 1)
    return .node (.paramList [p] p.coord)
  | "parameter_list", _ | "identifier_list", _ =>
    match ← asNode (s 1) with
    | .paramList ps c => return .node (.paramList (ps ++ [← asNode (s 3)]) c)
    | _ => unexpected
  | "parameter_declaration", [_, second] =>
    let spec ← asSpec (s 1)
    let spec ← if spec.types.isEmpty then do
        pure { spec with types := [.identifierType ["int"] (← at_ 1)] } else pure spec
    if second == "declarator" then
      let ds ← buildDeclarations spec [⟨some (← asNode (s 2)), none, none⟩]
      let some d := ds.head? | throw Failure.listIndex
      return .node d
    let takesName ← if spec.types.length > 1 then do
        let some last := spec.types.getLast? | pure false
        match ← namesOf last with
        | [n] => isType (some n)
        | _ => pure false
      else pure false
    if takesName then
      let ds ← buildDeclarations spec [⟨← asOptNode (s 2), none, none⟩]
      let some d := ds.head? | throw Failure.listIndex
      return .node d
    let inner := (← asOptNode (s 2)).getD (.typeDecl none none none none)
    let tn := Node.typeName (some "") spec.qual inner (← at_ 2)
    return .node (← fixDeclNameType tn spec.types)
  | "initializer", [_] => return s 1
  | "initializer", [_, _, _] =>
    match s 2 with
    | .none => return .node (.initList [] (← at_ 1))
    | other => return other
  | "initializer", _ => return s 2
  | "initializer_list", [_, _] =>
    let init ← asNode (s 2)
    let item := match s 1 with
      | .nodes ds => Node.namedInitializer ds init none
      | _ => init
    return .node (.initList [item] init.coord)
  | "initializer_list", _ =>
    let init ← asNode (s 4)
    let item := match s 3 with
      | .nodes ds => Node.namedInitializer ds init none
      | _ => init
    match ← asNode (s 1) with
    | .initList es c => return .node (.initList (es ++ [item]) c)
    | _ => unexpected
  | "designation", _ => return s 1
  | "designator_list", [_] => return .nodes [← asNode (s 1)]
  | "designator_list", _ => return .nodes ((← asNodes (s 1)) ++ [← asNode (s 2)])
  | "designator", _ => return s 2
  | "type_name", _ =>
    let spec ← asSpec (s 1)
    let inner := (← asOptNode (s 2)).getD (.typeDecl none none none none)
    return .node (← fixDeclNameType (.typeName (some "") spec.qual inner (← at_ 2)) spec.types)
  | "abstract_declarator", ["pointer"] =>
    return .node (modifyDecl (.typeDecl none none none none) (← asNode (s 1)))
  | "abstract_declarator", ["pointer", _] => return .node (modifyDecl (← asNode (s 2)) (← asNode (s 1)))
  | "abstract_declarator", _ => return s 1
  | "direct_abstract_declarator", ["LPAREN", "abstract_declarator", _] => return s 2
  | "direct_abstract_declarator", [_, "LBRACKET", "assignment_expression_opt", _] =>
    let d ← asNode (s 1)
    return .node (modifyDecl d (.arrayDecl none (← asOptNode (s 3)) [] d.coord))
  | "direct_abstract_declarator", ["LBRACKET", "assignment_expression_opt", _] =>
    return .node (.arrayDecl (some (.typeDecl none none none none)) (← asOptNode (s 2)) [] (← at_ 1))
  | "direct_abstract_declarator", [_, "LBRACKET", "TIMES", _] =>
    let d ← asNode (s 1)
    let star := Node.ident (← asText (s 3)) (← at_ 3)
    return .node (modifyDecl d (.arrayDecl none (some star) [] d.coord))
  | "direct_abstract_declarator", ["LBRACKET", "TIMES", _] =>
    let star := Node.ident (← asText (s 2)) (← at_ 2)
    return .node (.arrayDecl (some (.typeDecl none none none none)) (some star) [] (← at_ 1))
  | "direct_abstract_declarator", [_, "LPAREN", _, _] =>
    let d ← asNode (s 1)
    return .node (modifyDecl d (.funcDecl (← asOptNode (s 3)) none d.coord))
  | "direct_abstract_declarator", _ =>
    return .node (.funcDecl (← asOptNode (s 2)) (some (.typeDecl none none none none)) (← at_ 1))
  | "block_item", _ =>
    match s 1 with
    | .nodes ns => return .nodes ns
    | .node n => return .nodes [n]
    | _ => unexpected
  | "block_item_list", [_] => return s 1
  | "block_item_list", _ => return .nodes ((← asNodes (s 1)) ++ (← asNodes (s 2)))
  | "compound_statement", _ => return .node (.compound (← asOptNodes (s 2)) (← at_ 1))
  | "labeled_statement", ["ID", _, _] =>
    return .node (.labelStmt (← asText (s 1)) (← asNode (s 3)) (← at_ 1))
  | "labeled_statement", ["CASE", _, _, _] =>
    return .node (.caseLabel (← asNode (s 2)) [← asNode (s 4)] (← at_ 1))
  | "labeled_statement", _ => return .node (.defaultLabel [← asNode (s 3)] (← at_ 1))
  | "selection_statement", ["IF", _, _, _, _] =>
    return .node (.ifStmt (← asNode (s 3)) (← asNode (s 5)) none (← at_ 1))
  | "selection_statement", ["IF", _, _, _, _, _, _] =>
    return .node (.ifStmt (← asNode (s 3)) (← asNode (s 5)) (some (← asNode (s 7))) (← at_ 1))
  | "selection_statement", _ =>
    return .node (← fixSwitchCases (.switchStmt (← asNode (s 3)) (← asNode (s 5)) (← at_ 1)))
  | "iteration_statement", ["WHILE", _, _, _, _] =>
    return .node (.whileStmt (← asNode (s 3)) (← asNode (s 5)) (← at_ 1))
  | "iteration_statement", ["DO", _, _, _, _, _, _] =>
    return .node (.doWhile (← asNode (s 5)) (← asNode (s 2)) (← at_ 1))
  | "iteration_statement", [_, _, "expression_opt", _, _, _, _, _, _] =>
    return .node (.forStmt (← asOptNode (s 3)) (← asOptNode (s 5)) (← asOptNode (s 7)) (← asNode (s 9)) (← at_ 1))
  | "iteration_statement", _ =>
    let c ← at_ 1
    return .node (.forStmt (some (.declList (← asNodes (s 3)) c)) (← asOptNode (s 4)) (← asOptNode (s 6))
      (← asNode (s 8)) c)
  | "jump_statement", ["GOTO", _, _] => return .node (.gotoStmt (← asText (s 2)) (← at_ 1))
  | "jump_statement", ["BREAK", _] => return .node (.breakStmt (← at_ 1))
  | "jump_statement", ["CONTINUE", _] => return .node (.continueStmt (← at_ 1))
  | "jump_statement", [_, _, _] => return .node (.returnStmt (some (← asNode (s 2))) (← at_ 1))
  | "jump_statement", _ => return .node (.returnStmt none (← at_ 1))
  | "expression_statement", _ =>
    match s 1 with
    | .none => return .node (.emptyStatement (← at_ 1))
    | other => return other
  | "expression", [_] => return s 1
  | "expression", _ =>
    let e ← asNode (s 3)
    match ← asNode (s 1) with
    | .exprList es c => return .node (.exprList (es ++ [e]) c)
    | first => return .node (.exprList [first, e] first.coord)
  | "typedef_name", _ => return .node (.identifierType [← asText (s 1)] (← at_ 1))
  | "assignment_expression", [_] => return s 1
  | "assignment_expression", _ =>
    let l ← asNode (s 1)
    return .node (.assignment (← asText (s 2)) l (← asNode (s 3)) l.coord)
  | "assignment_operator", _ | "unary_operator", _ | "constant_expression", _ => return s 1
  | "conditional_expression", [_] => return s 1
  | "conditional_expression", _ =>
    let c ← asNode (s 1)
    return .node (.ternaryOp c (← asNode (s 3)) (← asNode (s 5)) c.coord)
  | "binary_expression", [_] => return s 1
  | "binary_expression", _ =>
    let l ← asNode (s 1)
    return .node (.binaryOp (← asText (s 2)) l (← asNode (s 3)) l.coord)
  | "cast_expression", [_] => return s 1
  | "cast_expression", _ => return .node (.cast (← asNode (s 2)) (← asNode (s 4)) (← at_ 1))
  | "unary_expression", [_] => return s 1
  | "unary_expression", ["SIZEOF", _] => return .node (.unaryOp (← asText (s 1)) (← asNode (s 2)) (← at_ 1))
  | "unary_expression", ["SIZEOF", _, _, _] =>
    return .node (.unaryOp (← asText (s 1)) (← asNode (s 3)) (← at_ 1))
  | "unary_expression", _ =>
    let e ← asNode (s 2)
    return .node (.unaryOp (← asText (s 1)) e e.coord)
  | "postfix_expression", [_] => return s 1
  | "postfix_expression", [_, "LBRACKET", _, _] =>
    let n ← asNode (s 1)
    return .node (.arrayRef n (← asNode (s 3)) n.coord)
  | "postfix_expression", [_, "LPAREN", _, _] =>
    let n ← asNode (s 1)
    return .node (.funcCall n (some (← asNode (s 3))) n.coord)
  | "postfix_expression", [_, "LPAREN", _] =>
    let n ← asNode (s 1)
    return .node (.funcCall n none n.coord)
  | "postfix_expression", [_, "PERIOD", _] | "postfix_expression", [_, "ARROW", _] =>
    let n ← asNode (s 1)
    let field := Node.ident (← asText (s 3)) (← at_ 3)
    return .node (.structRef n (← asText (s 2)) field n.coord)
  | "postfix_expression", [_, _] =>
    let n ← asNode (s 1)
    return .node (.unaryOp ("p" ++ (← asText (s 2))) n n.coord)
  | "postfix_expression", _ => return .node (.compoundLiteral (← asNode (s 2)) (← asNode (s 5)) none)
  | "primary_expression", [_] => return s 1
  | "primary_expression", [_, _, _] => return s 2
  | "primary_expression", _ =>
    let c ← at_ 1
    return .node (.funcCall (.ident (← asText (s 1)) c) (some (.exprList [← asNode (s 3), ← asNode (s 5)] c)) c)
  | "argument_expression_list", [_] =>
    let e ← asNode (s 1)
    return .node (.exprList [e] e.coord)
  | "argument_expression_list", _ =>
    match ← asNode (s 1) with
    | .exprList es c => return .node (.exprList (es ++ [← asNode (s 3)]) c)
    | _ => unexpected
  | "identifier", _ => return .node (.ident (← asText (s 1)) (← at_ 1))
  | "constant", [t] =>
    let kind := if t.startsWith "INT" then "int"
      else if t == "FLOAT_CONST" || t == "HEX_FLOAT_CONST" then "float" else "char"
    return .node (.constant kind (← asText (s 1)) (← at_ 1))
  | "unified_string_literal", [_] | "unified_wstring_literal", [_] =>
    return .node (.constant "string" (← asText (s 1)) (← at_ 1))
  | "unified_string_literal", _ =>
    match ← asNode (s 1) with
    | .constant k v c =>
      let more := (← asText (s 2)).drop 1
      return .node (.constant k ((v.dropEnd 1).toString ++ more.toString) c)
    | _ => unexpected
  | "unified_wstring_literal", _ =>
    match ← asNode (s 1) with
    | .constant k v c =>
      let more := (← asText (s 2)).drop 2
      return .node (.constant k ((v.trimAsciiEnd.dropEnd 1).toString ++ more.toString) c)
    | _ => unexpected
  | "brace_open", _ | "brace_close", _ => return s 1
  | _, _ => return .none

end ParseM

end Basis.C
