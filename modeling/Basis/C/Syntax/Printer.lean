import Basis.C.Syntax

/-!
# Writing syntax trees back as C

`Node.toC` writes a syntax tree as C source. Statements go one per line,
indented by two spaces per level of nesting; the body of an `if`, a loop or a
label is indented one level deeper than its head, except a block, which writes
its own braces at the level of the head.

Expressions are written with single blanks around binary operators, and an
operand is put in parentheses unless it is simple: a constant, a name, an
indexing, a member access or a call. A declaration is written from its
declarator chain: pointers in front of the name, arrays and parameter lists
after it, and parentheses around a pointer that an array or a function applies
to.

The writer takes one of several roles for a node (`Role`): as an expression or
a part of one, as a statement, as an operand that keeps its braces or
parentheses, or as the type of a declarator, collecting the modifiers met on
the way down to the name.
-/

namespace Basis.C

/-- A modifier of a declarator, already written: an array with its length, a
function with its parameters, or a pointer with its qualifiers. -/
inductive Modifier where
  | array (dim : String)
  | func (args : String)
  | pointer (quals : List String)

/-- The role in which a node is written. -/
inductive Role where
  /-- As itself. -/
  | plain
  /-- As a statement, one level deeper when `deeper`. -/
  | stmt (deeper : Bool)
  /-- As an operand: an initializer list in braces, an expression list in parentheses. -/
  | operand
  /-- As the type of a declarator, with the modifiers above it, outermost first. -/
  | typeOf (modifiers : List Modifier)

namespace Printer

/-- Blanks for a level of indentation. -/
def indent (level : Nat) : String := String.ofList (List.replicate level ' ')

/-- Whether a node is written without parentheses as an operand. -/
def isSimple : Node → Bool
  | .constant .. | .ident .. | .arrayRef .. | .structRef .. | .funcCall .. => true
  | _ => false

/-- Whether a node is a statement that ends with a semicolon when it stands alone. -/
def takesSemicolon : Node → Bool
  | .decl .. | .assignment .. | .cast .. | .unaryOp .. | .binaryOp .. | .ternaryOp ..
  | .funcCall .. | .arrayRef .. | .structRef .. | .constant .. | .ident .. | .typedefDecl ..
  | .exprList .. => true
  | _ => false

/-- Words joined by blanks, with a blank after them when there are any. -/
def wordsThen (ws : List String) : String := if ws.isEmpty then "" else " ".intercalate ws ++ " "

/-- The declarator text around a name, from the modifiers above it, outermost first. -/
def applyModifiers (name : String) (modifiers : List Modifier) : String :=
  let step := fun (acc : String × Bool) (m : Modifier) =>
    let (s, afterPointer) := acc
    match m with
    | .array dim => ((if afterPointer then "(" ++ s ++ ")" else s) ++ "[" ++ dim ++ "]", false)
    | .func args => ((if afterPointer then "(" ++ s ++ ")" else s) ++ "(" ++ args ++ ")", false)
    | .pointer quals =>
      ((if quals.isEmpty then "*" ++ s else "* " ++ " ".intercalate quals ++ " " ++ s), true)
  (modifiers.foldl step (name, false)).1

/-- A text in parentheses unless it is simple. -/
def paren (simple : Bool) (s : String) : String := if simple then s else "(" ++ s ++ ")"

/-- The rank of a role on a node, so that writing a node in one role may write
the same node in a role of lower rank. -/
def rank : Role → Nat
  | .plain => 0
  | .typeOf _ => 1
  | .operand => 2
  | .stmt _ => 2

end Printer

open Printer in
/-- Writes a node in a role at a level of indentation. -/
def Node.write (level : Nat) (role : Role) (n : Node) : String :=
  match role with
  | .stmt deeper =>
    let lead := indent (if deeper then level + 2 else level)
    if takesSemicolon n then lead ++ n.write level .plain ++ ";\n"
    else if n matches .compound .. then n.write level .plain
    else lead ++ n.write level .plain ++ "\n"
  | .operand =>
    if n matches .initList .. then "\x7b" ++ n.write level .plain ++ "\x7d"
    else if n matches .exprList .. then "(" ++ n.write level .plain ++ ")"
    else n.write level .plain
  | .typeOf modifiers =>
    match n with
    | .typeDecl name quals t _ =>
      let base := match t with
        | some t => t.write level .plain
        | none => ""
      let s := wordsThen (quals.getD []) ++ base
      let nstr := applyModifiers (name.getD "") modifiers
      if nstr.isEmpty then s else s ++ " " ++ nstr
    | .decl _ _ _ _ t _ _ _ =>
      match t with
      | .decl _ _ s f t' _ _ _ => wordsThen f ++ wordsThen s ++ t'.write level (.typeOf [])
      | _ => ""
    | .typeName _ _ t _ => t.write level (.typeOf [])
    | .identifierType ns _ => " ".intercalate ns ++ " "
    | .arrayDecl t dim _ _ =>
      let d := match dim with
        | some d => d.write level .plain
        | none => ""
      match t with
      | some t => t.write level (.typeOf (modifiers ++ [.array d]))
      | none => ""
    | .funcDecl args t _ =>
      let a := match args with
        | some a => a.write level .plain
        | none => ""
      match t with
      | some t => t.write level (.typeOf (modifiers ++ [.func a]))
      | none => ""
    | .ptrDecl quals t _ =>
      match t with
      | some t => t.write level (.typeOf (modifiers ++ [.pointer quals]))
      | none => ""
    | other => other.write level .plain
  | .plain =>
    match n with
    | .constant _ v _ => v
    | .ident name _ => name
    | .arrayRef name sub _ => paren (isSimple name) (name.write level .operand) ++ "[" ++ sub.write level .plain ++ "]"
    | .structRef name op field _ => paren (isSimple name) (name.write level .operand) ++ op ++ field.write level .plain
    | .funcCall name args _ => paren (isSimple name) (name.write level .operand) ++ "(" ++ (match args with | some x => x.write level .plain | none => "") ++ ")"
    | .unaryOp op e _ =>
      if op == "p++" then paren (isSimple e) (e.write level .operand) ++ "++"
      else if op == "p--" then paren (isSimple e) (e.write level .operand) ++ "--"
      else if op == "sizeof" then "sizeof(" ++ e.write level .plain ++ ")"
      else op ++ paren (isSimple e) (e.write level .operand)
    | .binaryOp op l r _ => paren (isSimple l) (l.write level .operand) ++ " " ++ op ++ " " ++ paren (isSimple r) (r.write level .operand)
    | .assignment op l r _ =>
      let rs := if r matches .assignment .. then "(" ++ r.write level .operand ++ ")" else r.write level .operand
      l.write level .plain ++ " " ++ op ++ " " ++ rs
    | .identifierType ns _ => " ".intercalate ns
    | .decl _ _ s f t init bits _ =>
      let head := wordsThen f ++ wordsThen s ++ t.write level (.typeOf [])
      let withBits := match bits with
        | some b => head ++ " : " ++ b.write level .plain
        | none => head
      match init with
      | some i => withBits ++ " = " ++ i.write level .operand
      | none => withBits
    | .declList ds _ =>
      match ds.attach with
      | [] => ""
      | ⟨first, _⟩ :: rest =>
        let tail := rest.map fun ⟨d, _⟩ =>
          match d with
          | .decl name _ _ _ _ init bits _ =>
            let s := name.getD ""
            let s := match bits with
              | some b => s ++ " : " ++ b.write level .plain
              | none => s
            match init with
            | some i => s ++ " = " ++ i.write level .operand
            | none => s
          | other => other.write level .plain
        first.write level .plain ++ (if rest.isEmpty then "" else ", " ++ ", ".intercalate tail)
    | .typedefDecl _ _ s t _ => wordsThen s ++ t.write level (.typeOf [])
    | .cast t e _ => "(" ++ t.write level (.typeOf []) ++ ")" ++ " " ++ paren (isSimple e) (e.write level .operand)
    | .exprList es _ => ", ".intercalate (es.attach.map fun ⟨e, _⟩ => e.write level .operand)
    | .initList es _ => ", ".intercalate (es.attach.map fun ⟨e, _⟩ => e.write level .operand)
    | .enumType name values _ _ =>
      let s := "enum" ++ (match name with
        | some nm => if nm.isEmpty then "" else " " ++ nm
        | none => "")
      match values with
      | some (.enumeratorList es _) =>
        let items := es.attach.map fun ⟨e, _⟩ =>
          match e with
          | .enumerator name (some v) _ => name ++ " = " ++ v.write level .plain
          | .enumerator name none _ => name
          | other => other.write level .plain
        s ++ " \x7b" ++ ", ".intercalate items ++ "\x7d"
      | some other => s ++ " \x7b" ++ other.write level .plain ++ "\x7d"
      | none => s
    | .funcDef d ps body _ =>
      let head := d.write level .plain
      let b := body.write 0 .plain
      match ps with
      | some (p :: more) =>
        let knr := ";\n".intercalate ((p :: more).attach.map fun ⟨x, _⟩ => x.write 0 .plain)
        head ++ "\n" ++ knr ++ ";\n" ++ b ++ "\n"
      | _ => head ++ "\n" ++ b ++ "\n"
    | .fileAST ext _ =>
      String.join (ext.attach.map fun ⟨e, _⟩ =>
        if e matches .funcDef .. then e.write level .plain else e.write level .plain ++ ";\n")
    | .compound items _ =>
      let body := match items with
        | some is => String.join (is.attach.map fun ⟨i, _⟩ => i.write (level + 2) (.stmt false))
        | none => ""
      indent level ++ "\x7b\n" ++ body ++ indent level ++ "\x7d\n"
    | .emptyStatement _ => ";"
    | .paramList ps _ => ", ".intercalate (ps.attach.map fun ⟨p, _⟩ => p.write level .plain)
    | .returnStmt e _ =>
      match e with
      | some e => "return " ++ e.write level .plain ++ ";"
      | none => "return;"
    | .breakStmt _ => "break;"
    | .continueStmt _ => "continue;"
    | .ternaryOp c t f _ => c.write level .operand ++ " ? " ++ t.write level .operand ++ " : " ++ f.write level .operand
    | .ifStmt c t f _ =>
      let s := "if (" ++ c.write level .plain ++ ")\n" ++ t.write level (.stmt true)
      match f with
      | some f => s ++ indent level ++ "else\n" ++ f.write level (.stmt true)
      | none => s
    | .forStmt i c nx st _ =>
      let s := "for (" ++ (match i with | some x => x.write level .plain | none => "") ++ ";"
      let s := s ++ (match c with
        | some c => " " ++ c.write level .plain
        | none => "") ++ ";"
      let s := s ++ (match nx with
        | some x => " " ++ x.write level .plain
        | none => "") ++ ")\n"
      s ++ st.write level (.stmt true)
    | .whileStmt c st _ => "while (" ++ c.write level .plain ++ ")\n" ++ st.write level (.stmt true)
    | .doWhile c st _ =>
      "do\n" ++ st.write level (.stmt true) ++ indent level ++ "while (" ++ c.write level .plain ++ ");"
    | .switchStmt c st _ => "switch (" ++ c.write level .plain ++ ")\n" ++ st.write level (.stmt true)
    | .caseLabel e ss _ =>
      "case " ++ e.write level .plain ++ ":\n" ++ String.join (ss.attach.map fun ⟨x, _⟩ => x.write level (.stmt true))
    | .defaultLabel ss _ => "default:\n" ++ String.join (ss.attach.map fun ⟨x, _⟩ => x.write level (.stmt true))
    | .labelStmt name st _ => name ++ ":\n" ++ st.write level (.stmt false)
    | .gotoStmt name _ => "goto " ++ name ++ ";"
    | .ellipsisParam _ => "..."
    | .aggregate u name decls _ _ =>
      let s := (if u then "union" else "struct") ++ " " ++ name.getD ""
      match decls with
      | some (d :: more) =>
        let body := String.join ((d :: more).attach.map fun ⟨x, _⟩ => x.write (level + 2) (.stmt false))
        s ++ "\n" ++ indent level ++ "\x7b\n" ++ body ++ indent level ++ "\x7d"
      | _ => s
    | .typeName _ _ t _ => t.write level (.typeOf [])
    | .namedInitializer names e _ =>
      let designators := String.join (names.map fun
        | .ident nm _ => "." ++ nm
        | .constant _ v _ => "[" ++ v ++ "]"
        | _ => "")
      designators ++ " = " ++ e.write level .plain
    | .funcDecl args t _ =>
      match t with
      | some t => t.write level (.typeOf [.func ((match args with | some x => x.write level .plain | none => ""))])
      | none => ""
    | .arrayDecl t d _ _ => (match t with | some x => x.write level .plain | none => "") ++ (match d with | some x => x.write level .plain | none => "")
    | .ptrDecl _ t _ => (match t with | some x => x.write level .plain | none => "")
    | .typeDecl _ _ t _ => (match t with | some x => x.write level .plain | none => "")
    | .compoundLiteral t i _ => t.write level .plain ++ i.write level .plain
    | .enumerator _ v _ => (match v with | some x => x.write level .plain | none => "")
    | .enumeratorList es _ => String.join (es.attach.map fun ⟨e, _⟩ => e.write level .plain)
termination_by (sizeOf n, Printer.rank role)
decreasing_by
  all_goals simp_wf
  all_goals first
    | exact Prod.Lex.right _ (by simp [Printer.rank])
    | (apply Prod.Lex.left; omega)
    | (apply Prod.Lex.left; have := List.sizeOf_lt_of_mem ‹_ ∈ _›; simp_all; omega)

/-- The C source of a syntax tree. -/
def Node.toC (n : Node) : String := n.write 0 .plain

end Basis.C
