import Basis.C.Syntax
import Basis.Value.Repr

/-!
# Showing syntax trees

`Node.show` writes a tree one node per line, indented by two spaces per level:
the kind of the node, the name of the field it fills in its parent (in angle
brackets; a list field is indexed, as in `ext[0]`), its attributes as
`name=value` pairs, and its place in the source. Absent children are left out.

Attribute values are written as values print: a text as it is, an absent one as
`None`, a list of texts in brackets with each text quoted.
-/

namespace Basis.C

/-- A node laid out for showing: its kind, attributes, place and named children. -/
inductive Outline where
  | mk (kind : String) (attrs : List (String × String)) (coord : Option Coord)
      (children : List (String × Outline))

/-- The text of an optional text attribute. -/
def showName : Option String → String
  | some s => s
  | none => "None"

/-- The text of a list of texts, each quoted, in brackets. -/
def showList (xs : List String) : String :=
  "[" ++ ", ".intercalate (xs.map Value.strRepr) ++ "]"

/-- The text of an optional list of texts. -/
def showOptList : Option (List String) → String
  | some xs => showList xs
  | none => "None"

/-- Names the outlines of a list field by their positions. -/
def indexed (field : String) (items : List Outline) : List (String × Outline) :=
  (items.zip (List.range items.length)).map fun (o, i) => (field ++ "[" ++ toString i ++ "]", o)

mutual

/-- The outline of a node. -/
def Node.outline : Node → Outline
  | .arrayDecl t d q c => .mk "ArrayDecl" [("dim_quals", showList q)] c (optional "type" t ++ optional "dim" d)
  | .arrayRef n s c => .mk "ArrayRef" [] c [("name", n.outline), ("subscript", s.outline)]
  | .assignment op l r c => .mk "Assignment" [("op", op)] c [("lvalue", l.outline), ("rvalue", r.outline)]
  | .binaryOp op l r c => .mk "BinaryOp" [("op", op)] c [("left", l.outline), ("right", r.outline)]
  | .breakStmt c => .mk "Break" [] c []
  | .caseLabel e s c => .mk "Case" [] c (("expr", e.outline) :: indexed "stmts" (outlines s))
  | .cast t e c => .mk "Cast" [] c [("to_type", t.outline), ("expr", e.outline)]
  | .compound items c => .mk "Compound" [] c (indexed "block_items" (optionalList items))
  | .compoundLiteral t i c => .mk "CompoundLiteral" [] c [("type", t.outline), ("init", i.outline)]
  | .constant k v c => .mk "Constant" [("type", k), ("value", v)] c []
  | .continueStmt c => .mk "Continue" [] c []
  | .decl n q s f t i b c =>
    .mk "Decl" [("name", showName n), ("quals", showList q), ("storage", showList s), ("funcspec", showList f)] c
      (("type", t.outline) :: optional "init" i ++ optional "bitsize" b)
  | .declList ds c => .mk "DeclList" [] c (indexed "decls" (outlines ds))
  | .defaultLabel s c => .mk "Default" [] c (indexed "stmts" (outlines s))
  | .doWhile cond s c => .mk "DoWhile" [] c [("cond", cond.outline), ("stmt", s.outline)]
  | .ellipsisParam c => .mk "EllipsisParam" [] c []
  | .emptyStatement c => .mk "EmptyStatement" [] c []
  | .enumType n v _ c => .mk "Enum" [("name", showName n)] c (optional "values" v)
  | .enumerator n v c => .mk "Enumerator" [("name", n)] c (optional "value" v)
  | .enumeratorList es c => .mk "EnumeratorList" [] c (indexed "enumerators" (outlines es))
  | .exprList es c => .mk "ExprList" [] c (indexed "exprs" (outlines es))
  | .fileAST es c => .mk "FileAST" [] c (indexed "ext" (outlines es))
  | .forStmt i cond n s c =>
    .mk "For" [] c (optional "init" i ++ optional "cond" cond ++ optional "next" n ++ [("stmt", s.outline)])
  | .funcCall n a c => .mk "FuncCall" [] c (("name", n.outline) :: optional "args" a)
  | .funcDecl a t c => .mk "FuncDecl" [] c (optional "args" a ++ optional "type" t)
  | .funcDef d ps b c =>
    .mk "FuncDef" [] c ([("decl", d.outline), ("body", b.outline)] ++ indexed "param_decls" (optionalList ps))
  | .gotoStmt n c => .mk "Goto" [("name", n)] c []
  | .ident n c => .mk "ID" [("name", n)] c []
  | .identifierType ns c => .mk "IdentifierType" [("names", showList ns)] c []
  | .ifStmt cond t f c => .mk "If" [] c ([("cond", cond.outline), ("iftrue", t.outline)] ++ optional "iffalse" f)
  | .initList es c => .mk "InitList" [] c (indexed "exprs" (outlines es))
  | .labelStmt n s c => .mk "Label" [("name", n)] c [("stmt", s.outline)]
  | .namedInitializer ns e c => .mk "NamedInitializer" [] c (("expr", e.outline) :: indexed "name" (outlines ns))
  | .paramList ps c => .mk "ParamList" [] c (indexed "params" (outlines ps))
  | .ptrDecl q t c => .mk "PtrDecl" [("quals", showList q)] c (optional "type" t)
  | .returnStmt e c => .mk "Return" [] c (optional "expr" e)
  | .aggregate u n ds _ c =>
    .mk (if u then "Union" else "Struct") [("name", showName n)] c (indexed "decls" (optionalList ds))
  | .structRef n t f c => .mk "StructRef" [("type", t)] c [("name", n.outline), ("field", f.outline)]
  | .switchStmt cond s c => .mk "Switch" [] c [("cond", cond.outline), ("stmt", s.outline)]
  | .ternaryOp cond t f c => .mk "TernaryOp" [] c [("cond", cond.outline), ("iftrue", t.outline), ("iffalse", f.outline)]
  | .typeDecl n q t c => .mk "TypeDecl" [("declname", showName n), ("quals", showOptList q)] c (optional "type" t)
  | .typedefDecl n q s t c =>
    .mk "Typedef" [("name", showName n), ("quals", showList q), ("storage", showList s)] c [("type", t.outline)]
  | .typeName n q t c => .mk "Typename" [("name", showName n), ("quals", showList q)] c [("type", t.outline)]
  | .unaryOp op e c => .mk "UnaryOp" [("op", op)] c [("expr", e.outline)]
  | .whileStmt cond s c => .mk "While" [] c [("cond", cond.outline), ("stmt", s.outline)]

/-- The outlines of a list of nodes. -/
def outlines : List Node → List Outline
  | [] => []
  | n :: ns => n.outline :: outlines ns

/-- The outlines of a list of nodes that may be absent. -/
def optionalList : Option (List Node) → List Outline
  | some ns => outlines ns
  | none => []

/-- A child that may be absent, named. -/
def optional (field : String) : Option Node → List (String × Outline)
  | some n => [(field, n.outline)]
  | none => []

end

mutual

/-- The lines of an outline at a depth, under a field name. -/
def Outline.lines (depth : Nat) (field : Option String) : Outline → List String
  | .mk kind attrs coord children =>
    let lead := String.ofList (List.replicate (2 * depth) ' ')
    let head := match field with
      | some f => lead ++ kind ++ " <" ++ f ++ ">: "
      | none => lead ++ kind ++ ": "
    let attrText := ", ".intercalate (attrs.map fun (k, v) => k ++ "=" ++ v)
    let place := match coord with
      | some c => c.render
      | none => "None"
    (head ++ attrText ++ " (at " ++ place ++ ")") :: childLines (depth + 1) children

/-- The lines of named children at a depth. -/
def childLines (depth : Nat) : List (String × Outline) → List String
  | [] => []
  | (f, o) :: rest => o.lines depth (some f) ++ childLines depth rest

end

/-- The text of a syntax tree, one node per line. -/
def Node.show (n : Node) : String :=
  String.join ((n.outline.lines 0 none).map (· ++ "\n"))

end Basis.C
