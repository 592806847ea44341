import Basis.C.Lexer
import Basis.C.Syntax

/-!
# The state of the C parser

The parser of C keeps, besides its stack, the lexer it reads from and the
scopes of names. A scope tells, for each name declared in it, whether it was
declared as a type: the lexer asks the scopes when it meets a name, so that a
name declared with `typedef` comes as a type name. A brace opens a scope when
the lexer reads it, and the closing brace ends it; a closing brace with no
scope left to end is an `AssertionError`.

While a declaration is read, its parts are kept as values of `Sem`: a node, a
list of nodes, the specifiers of a declaration (`Spec`), the declarators with
their initializers (`DeclItem`), or the text of a token.
-/

namespace Basis.C

/-- The specifiers of a declaration: qualifiers, storage classes, type
specifiers and function specifiers, each in the order written. -/
structure Spec where
  /-- The qualifiers. -/
  qual : List String := []
  /-- The storage classes. -/
  storage : List String := []
  /-- The type specifiers. -/
  types : List Node := []
  /-- The function specifiers. -/
  function : List String := []
  deriving Inhabited

/-- A declarator with what comes with it: its initializer and its bit width. The
declarator is absent when the declared name was read as a type name. -/
structure DeclItem where
  /-- The declarator. -/
  decl : Option Node
  /-- The initializer. -/
  init : Option Node := none
  /-- The bit width of a member. -/
  bitsize : Option Node := none
  deriving Inhabited

/-- The value of a symbol on the parser's stack. -/
inductive Sem where
  /-- Nothing: an empty optional part. -/
  | none
  /-- The text of a token, or a word passed up from one. -/
  | text (s : String)
  /-- A node. -/
  | node (n : Node)
  /-- A list of nodes. -/
  | nodes (ns : List Node)
  /-- Declaration specifiers. -/
  | spec (s : Spec)
  /-- A list of words, such as qualifiers. -/
  | words (ws : List String)
  /-- Declarators with their initializers. -/
  | items (ds : List DeclItem)
  /-- One declarator with its initializer. -/
  | item (d : DeclItem)
  deriving Inhabited

/-- The names of one scope, with whether each is a type. -/
abbrev Scope := List (Option String × Bool)

/-- The state of the parser besides its stack. -/
structure ParserState where
  /-- The lexer. -/
  lexer : Lexer
  /-- The scopes, the innermost first. -/
  scopes : List Scope := [[]]
  /-- The last token the lexer gave, `none` once it reached the end. -/
  lastToken : Option Token := none
  /-- The number of struct, union and enum specifiers read so far. -/
  specifiers : Nat := 0

/-- Computations of the parser. -/
abbrev ParseM := ExceptT Failure (StateM ParserState)

namespace ParseM

/-- Fails with a parse error at a place. -/
def failAt {α : Type} (place : String) (message : String) : ParseM α :=
  throw ⟨"ParseError", place ++ ": " ++ message⟩

/-- The text of an optional place. -/
def placeText : Option Coord → String
  | some c => c.render
  | none => "None"

/-- Fails with a parse error at an optional place. -/
def failAtCoord {α : Type} (c : Option Coord) (message : String) : ParseM α :=
  failAt (placeText c) message

/-- The place of a line in the file the lexer is in. -/
def coordAt (line : Nat) : ParseM (Option Coord) := do
  return some ⟨(← get).lexer.filename, line, 0⟩

/-- The quoted form of an optional name in messages. -/
def nameRepr : Option String → String
  | some s => Value.strRepr s
  | none => "None"

/-- Whether a name is a type in the innermost scope that declares it. -/
def isTypeIn (scopes : List Scope) (name : Option String) : Bool :=
  match scopes.findSome? (fun s => (s.find? (·.1 == name)).map (·.2)) with
  | some b => b
  | none => false

/-- Whether a name is a type where the parser is. -/
def isType (name : Option String) : ParseM Bool := do
  return isTypeIn (← get).scopes name

/-- Records a name in the innermost scope. -/
def declare (name : Option String) (asType : Bool) : ParseM Unit :=
  modify fun st => match st.scopes with
    | s :: rest => { st with scopes := ((name, asType) :: s.filter (·.1 != name)) :: rest }
    | [] => st

/-- How the innermost scope has a name: `some true` as a type, `some false` as
another name, `none` not at all. -/
def innermostEntry (name : Option String) : ParseM (Option Bool) := do
  match (← get).scopes with
  | s :: _ => return (s.find? (·.1 == name)).map (·.2)
  | [] => return none

/-- Declares a type name; the innermost scope must not have it as another name. -/
def addTypedefName (name : Option String) (c : Option Coord) : ParseM Unit := do
  if (← innermostEntry name) == some false then
    failAtCoord c s!"Typedef {nameRepr name} previously declared as non-typedef in this scope"
  declare name true

/-- Declares a name that is not a type; the innermost scope must not have it as a type. -/
def addIdentifier (name : Option String) (c : Option Coord) : ParseM Unit := do
  if (← innermostEntry name) == some true then
    failAtCoord c s!"Non-typedef {nameRepr name} previously declared as typedef in this scope"
  declare name false

/-- The serial number of a new struct, union or enum specifier. -/
def nextSerial : ParseM Nat := do
  let st ← get
  set { st with specifiers := st.specifiers + 1 }
  return st.specifiers

/-- Opens a scope. -/
def pushScope : ParseM Unit := modify fun st => { st with scopes := [] :: st.scopes }

/-- Ends the innermost scope; the outermost one cannot end. -/
def popScope : ParseM Unit := do
  match (← get).scopes with
  | _ :: rest@(_ :: _) => modify fun st => { st with scopes := rest }
  | _ => throw (.assertionError "")

/-- A failure of a missing attribute, as when a node of the wrong kind is used. -/
def noAttribute {α : Type} (kind attr : String) : ParseM α :=
  throw (Failure.noAttribute kind attr)

end ParseM

end Basis.C
