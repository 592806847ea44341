/-!
# Syntax trees of C

A `Node` is a node of the syntax tree of a C translation unit: declarations,
the parts of declarators, statements and expressions. Every node may carry the
place in the source where it was found, a `Coord`.

A declarator is a chain of nodes read from the outside in: pointers
(`ptrDecl`), arrays (`arrayDecl`) and functions (`funcDecl`), each holding the
rest of the chain as its `type`, down to the `typeDecl` that holds the declared
name and the base type. While a declarator is being built its chain may still
end in nothing; `attachBelow` and `insertAboveName` complete it.
-/

namespace Basis.C

/-- A place in the source: the file, the line, and the column, zero when unknown. -/
structure Coord where
  /-- The file, as line markers name it. -/
  file : String
  /-- The line. -/
  line : Nat
  /-- The column, zero when unknown. -/
  column : Nat := 0
  deriving DecidableEq, Repr, Inhabited

/-- The text of a place: the file and line, and the column when it is known. -/
def Coord.render (c : Coord) : String :=
  c.file ++ ":" ++ toString c.line ++ (if c.column != 0 then ":" ++ toString c.column else "")

/-- A node of a syntax tree of C. -/
inductive Node where
  /-- An array declarator: the element type, the length, and qualifiers of the length. -/
  | arrayDecl (type : Option Node) (dim : Option Node) (dimQuals : List String) (coord : Option Coord)
  /-- An indexing expression. -/
  | arrayRef (name subscript : Node) (coord : Option Coord)
  /-- An assignment, with its operator. -/
  | assignment (op : String) (lvalue rvalue : Node) (coord : Option Coord)
  /-- A binary operation. -/
  | binaryOp (op : String) (left right : Node) (coord : Option Coord)
  /-- `break`. -/
  | breakStmt (coord : Option Coord)
  /-- A `case` label and the statements under it. -/
  | caseLabel (expr : Node) (stmts : List Node) (coord : Option Coord)
  /-- A cast. -/
  | cast (toType expr : Node) (coord : Option Coord)
  /-- A block; its items are absent when it is empty. -/
  | compound (items : Option (List Node)) (coord : Option Coord)
  /-- A compound literal: a type name and an initializer list. -/
  | compoundLiteral (type init : Node) (coord : Option Coord)
  /-- A constant of a kind (`int`, `float`, `char`, `string`), as written. -/
  | constant (kind value : String) (coord : Option Coord)
  /-- `continue`. -/
  | continueStmt (coord : Option Coord)
  /-- A declaration of one name. -/
  | decl (name : Option String) (quals storage funcspec : List String) (type : Node)
      (init bitsize : Option Node) (coord : Option Coord)
  /-- The declarations of the first clause of a `for`. -/
  | declList (decls : List Node) (coord : Option Coord)
  /-- A `default` label and the statements under it. -/
  | defaultLabel (stmts : List Node) (coord : Option Coord)
  /-- A `do` loop. -/
  | doWhile (cond stmt : Node) (coord : Option Coord)
  /-- The `...` of a parameter list. -/
  | ellipsisParam (coord : Option Coord)
  /-- The empty statement. -/
  | emptyStatement (coord : Option Coord)
  /-- An enumeration type, with its enumerators when they are given; `serial`
  numbers the type specifiers of a source, telling apart two that are alike. -/
  | enumType (name : Option String) (values : Option Node) (serial : Nat) (coord : Option Coord)
  /-- An enumerator, with its value when it is given. -/
  | enumerator (name : String) (value : Option Node) (coord : Option Coord)
  /-- The enumerators of an enumeration. -/
  | enumeratorList (enumerators : List Node) (coord : Option Coord)
  /-- Expressions separated by commas. -/
  | exprList (exprs : List Node) (coord : Option Coord)
  /-- A translation unit. -/
  | fileAST (ext : List Node) (coord : Option Coord)
  /-- A `for` loop. -/
  | forStmt (init cond next : Option Node) (stmt : Node) (coord : Option Coord)
  /-- A call. -/
  | funcCall (name : Node) (args : Option Node) (coord : Option Coord)
  /-- A function declarator: the parameters and the result type. -/
  | funcDecl (args : Option Node) (type : Option Node) (coord : Option Coord)
  /-- A function definition, with the parameter declarations of the old style. -/
  | funcDef (decl : Node) (paramDecls : Option (List Node)) (body : Node) (coord : Option Coord)
  /-- `goto`. -/
  | gotoStmt (name : String) (coord : Option Coord)
  /-- A name in an expression. -/
  | ident (name : String) (coord : Option Coord)
  /-- A base type given by names, such as `unsigned int` or a typedef name. -/
  | identifierType (names : List String) (coord : Option Coord)
  /-- An `if` statement. -/
  | ifStmt (cond iftrue : Node) (iffalse : Option Node) (coord : Option Coord)
  /-- An initializer list. -/
  | initList (exprs : List Node) (coord : Option Coord)
  /-- A labelled statement. -/
  | labelStmt (name : String) (stmt : Node) (coord : Option Coord)
  /-- An initializer with designators. -/
  | namedInitializer (name : List Node) (expr : Node) (coord : Option Coord)
  /-- A parameter list. -/
  | paramList (params : List Node) (coord : Option Coord)
  /-- A pointer declarator, with its qualifiers. -/
  | ptrDecl (quals : List String) (type : Option Node) (coord : Option Coord)
  /-- `return`. -/
  | returnStmt (expr : Option Node) (coord : Option Coord)
  /-- A structure or union type, with its members when they are given; `serial`
  numbers the type specifiers of a source, telling apart two that are alike. -/
  | aggregate (isUnion : Bool) (name : Option String) (decls : Option (List Node)) (serial : Nat)
      (coord : Option Coord)
  /-- A member access, with `.` or `->`. -/
  | structRef (name : Node) (type : String) (field : Node) (coord : Option Coord)
  /-- A `switch` statement. -/
  | switchStmt (cond stmt : Node) (coord : Option Coord)
  /-- A conditional expression. -/
  | ternaryOp (cond iftrue iffalse : Node) (coord : Option Coord)
  /-- The innermost part of a declarator: the declared name, the qualifiers and
  the base type. -/
  | typeDecl (declname : Option String) (quals : Option (List String)) (type : Option Node)
      (coord : Option Coord)
  /-- A type definition. -/
  | typedefDecl (name : Option String) (quals storage : List String) (type : Node) (coord : Option Coord)
  /-- A type name, as in casts and parameters without names. -/
  | typeName (name : Option String) (quals : List String) (type : Node) (coord : Option Coord)
  /-- A unary operation; postfix increments are `p++` and `p--`. -/
  | unaryOp (op : String) (expr : Node) (coord : Option Coord)
  /-- A `while` loop. -/
  | whileStmt (cond stmt : Node) (coord : Option Coord)
  deriving Inhabited

namespace Node

/-- The place of a node. -/
def coord : Node → Option Coord
  | .arrayDecl _ _ _ c | .arrayRef _ _ c | .assignment _ _ _ c | .binaryOp _ _ _ c
  | .breakStmt c | .caseLabel _ _ c | .cast _ _ c | .compound _ c | .compoundLiteral _ _ c
  | .constant _ _ c | .continueStmt c | .decl _ _ _ _ _ _ _ c | .declList _ c
  | .defaultLabel _ c | .doWhile _ _ c | .ellipsisParam c | .emptyStatement c
  | .enumType _ _ _ c | .enumerator _ _ c | .enumeratorList _ c | .exprList _ c | .fileAST _ c
  | .forStmt _ _ _ _ c | .funcCall _ _ c | .funcDecl _ _ c | .funcDef _ _ _ c | .gotoStmt _ c
  | .ident _ c | .identifierType _ c | .ifStmt _ _ _ c | .initList _ c | .labelStmt _ _ c
  | .namedInitializer _ _ c | .paramList _ c | .ptrDecl _ _ c | .returnStmt _ c
  | .aggregate _ _ _ _ c | .structRef _ _ _ c | .switchStmt _ _ c | .ternaryOp _ _ _ c
  | .typeDecl _ _ _ c | .typedefDecl _ _ _ _ c | .typeName _ _ _ c | .unaryOp _ _ c
  | .whileStmt _ _ c => c

/-- The name of the kind of a node. -/
def kindName : Node → String
  | .arrayDecl .. => "ArrayDecl"
  | .arrayRef .. => "ArrayRef"
  | .assignment .. => "Assignment"
  | .binaryOp .. => "BinaryOp"
  | .breakStmt .. => "Break"
  | .caseLabel .. => "Case"
  | .cast .. => "Cast"
  | .compound .. => "Compound"
  | .compoundLiteral .. => "CompoundLiteral"
  | .constant .. => "Constant"
  | .continueStmt .. => "Continue"
  | .decl .. => "Decl"
  | .declList .. => "DeclList"
  | .defaultLabel .. => "Default"
  | .doWhile .. => "DoWhile"
  | .ellipsisParam .. => "EllipsisParam"
  | .emptyStatement .. => "EmptyStatement"
  | .enumType .. => "Enum"
  | .enumerator .. => "Enumerator"
  | .enumeratorList .. => "EnumeratorList"
  | .exprList .. => "ExprList"
  | .fileAST .. => "FileAST"
  | .forStmt .. => "For"
  | .funcCall .. => "FuncCall"
  | .funcDecl .. => "FuncDecl"
  | .funcDef .. => "FuncDef"
  | .gotoStmt .. => "Goto"
  | .ident .. => "ID"
  | .identifierType .. => "IdentifierType"
  | .ifStmt .. => "If"
  | .initList .. => "InitList"
  | .labelStmt .. => "Label"
  | .namedInitializer .. => "NamedInitializer"
  | .paramList .. => "ParamList"
  | .ptrDecl .. => "PtrDecl"
  | .returnStmt .. => "Return"
  | .aggregate false .. => "Struct"
  | .aggregate true .. => "Union"
  | .structRef .. => "StructRef"
  | .switchStmt .. => "Switch"
  | .ternaryOp .. => "TernaryOp"
  | .typeDecl .. => "TypeDecl"
  | .typedefDecl .. => "Typedef"
  | .typeName .. => "Typename"
  | .unaryOp .. => "UnaryOp"
  | .whileStmt .. => "While"

/-- Whether a node is the innermost part of a declarator. -/
def isTypeDecl : Node → Bool
  | .typeDecl .. => true
  | _ => false

/-- Whether a node is a structure, union or base type given by names: the
declarations whose type is one of these need no completing. -/
def isPlainType : Node → Bool
  | .aggregate .. | .identifierType .. => true
  | _ => false

/-- The next link of a declarator chain, for the links that have one. -/
def typeLink? : Node → Option Node
  | .arrayDecl t _ _ _ | .funcDecl _ t _ | .ptrDecl _ t _ | .typeDecl _ _ t _ => t
  | .decl _ _ _ _ t _ _ _ | .typedefDecl _ _ _ t _ | .typeName _ _ t _ => some t
  | _ => none

/-- Replaces the next link of a declarator chain. -/
def withTypeLink (n : Node) (t : Option Node) : Node :=
  match n, t with
  | .arrayDecl _ d q c, _ => .arrayDecl t d q c
  | .funcDecl a _ c, _ => .funcDecl a t c
  | .ptrDecl q _ c, _ => .ptrDecl q t c
  | .typeDecl n q _ c, _ => .typeDecl n q t c
  | .decl nm q s f _ i b c, some t => .decl nm q s f t i b c
  | .typedefDecl nm q s _ c, some t => .typedefDecl nm q s t c
  | .typeName nm q _ c, some t => .typeName nm q t c
  | n, _ => n

/-- Puts `inner` at the end of a chain of modifiers that ends in nothing, at most
`fuel` links down. -/
def attachBelow (chain inner : Node) : Nat → Node
  | 0 => chain
  | fuel + 1 =>
    match chain.typeLink? with
    | some next => chain.withTypeLink (some (attachBelow next inner fuel))
    | none => chain.withTypeLink (some inner)

/-- The innermost part of a declarator chain, at most `fuel` links down. -/
def innermost? (n : Node) : Nat → Option Node
  | 0 => none
  | fuel + 1 =>
    if n.isTypeDecl then some n
    else match n.typeLink? with
      | some next => innermost? next fuel
      | none => none

/-- Applies `f` to the innermost part of a declarator chain, at most `fuel` links down. -/
def mapInnermost (n : Node) (f : Node → Node) : Nat → Node
  | 0 => n
  | fuel + 1 =>
    if n.isTypeDecl then f n
    else match n.typeLink? with
      | some next => n.withTypeLink (some (mapInnermost next f fuel))
      | none => n

/-- Adds a modifier chain to a declarator just above its innermost part: the
modifier comes nearest to the name. -/
def insertAboveName (decl modifier : Node) (fuel : Nat) : Node :=
  mapInnermost decl (fun inner => attachBelow modifier inner fuel) fuel

/-- A bound on the length of declarator chains: deeper ones are not followed. -/
def chainFuel : Nat := 100000

end Node

end Basis.C
