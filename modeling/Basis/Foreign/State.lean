import Basis.Failure
import Basis.C.Lexer
import Basis.C.Syntax
import Basis.Text.IntLiteral
import Basis.Foreign.Types
import Basis.Foreign.Source

/-!
# The state of foreign declarations

A `Book` holds what one set of declarations declared, under keys such as
`function f`, `typedef T`, `struct s`, `anonymous T` (an anonymous struct named by
a type definition), `variable v`, `constant K` and `macro M`; with the integer
constants, which enumerators and integer macros define.

Declaring a key twice is refused unless the second declaration is the same
object with the same qualifiers, or the book allows overriding. Sameness is of
objects, not of values (`Identity`): two declarations `int *p;` build two
pointer types and clash, while `T x; T x;` both use the one type that `T` names.
The primitive types named by a word are made once per word, and so are the small
integers from -5 to 256; everything else is built anew at each use.

Several books share a `Work`: the table of structs, unions and enums (a book
may include another one's types, and completing a struct in one completes it
for all), the mode of the lexer of C (which a source can leave, say, inside a
pragma), and the warnings issued.
-/

namespace Basis.Foreign

/-- What a declaration declares: a type, or the value of a macro. -/
inductive Declared where
  /-- A type. -/
  | type (t : CType)
  /-- An integer macro. -/
  | number (n : Int)
  /-- A macro whose value is left to a compiler (`#define M ...`). -/
  | dots
  deriving Repr, Inhabited

/-- What makes two declared things the same object. -/
inductive Identity where
  /-- The one `void` type. -/
  | void
  /-- The type named by a word, made once per word. -/
  | common (word : String)
  /-- A struct, union or enum. -/
  | tag (id : Nat)
  /-- A small integer, made once. -/
  | small (n : Int)
  /-- An object made for one use, by its serial number. -/
  | fresh (serial : Nat)
  deriving DecidableEq, Repr, Inhabited

/-- A declared thing, with its qualifiers. -/
structure Entry where
  /-- What is declared. -/
  value : Declared
  /-- The qualifiers. -/
  quals : Nat := 0
  /-- Which object it is. -/
  identity : Identity
  deriving Repr, Inhabited

/-- The options of one reading of declarations. -/
structure Options where
  /-- Whether a declaration may replace an earlier one of the same key. -/
  override : Bool := false
  /-- The packing given to structs completed, `none` outside a reading. -/
  packed : Option Int := none
  /-- Whether functions are declared as exported to the library's users. -/
  dllexport : Bool := false
  deriving Repr, Inhabited

/-- The marker declaration that ends a group of functions implemented in the
scripting language. -/
def externPythonStop : String := "__cffi_extern_python_stop"

/-- What one set of declarations declared. -/
structure Book where
  /-- The declarations by key, in the order first declared. -/
  entries : List (String × Entry) := []
  /-- The types taken from other books. -/
  included : List CType := []
  /-- The number of anonymous types named so far. -/
  anonymous : Nat := 0
  /-- The options of the reading in progress. -/
  options : Options := {}
  /-- The integer constants, in the order declared. -/
  intConstants : List (String × Int) := []
  /-- The first declaration that needs a recent compiler support, described. -/
  usesNewFeature : Option String := none
  /-- The marker declaration last seen of functions implemented in the scripting language. -/
  insideExternPython : String := externPythonStop
  deriving Inhabited

/-- The struct behind `FILE`, always entry 0 of the table. -/
def fileTag : Tag := (Tag.fresh .struct "_IO_FILE").forceName (some "FILE")

/-- The state shared by books, with the book being worked on. -/
structure Work where
  /-- The structs, unions and enums. -/
  tags : Tags := #[fileTag]
  /-- The serial number of the next object made for one use. -/
  serial : Nat := 0
  /-- The mode the lexer of C was left in. -/
  mode : C.LexMode := .normal
  /-- The warnings issued, latest first. -/
  warnings : List String := []
  /-- The book being worked on. -/
  book : Book := {}
  /-- Whether the last array length read was left to a compiler. -/
  partialLength : Bool := false
  /-- The nominal types already made for nodes of the tree being read, by node. -/
  seen : List (Nat × Nat) := []
  deriving Inhabited

/-- Computations on declarations; the state survives a failure. -/
abbrev DeclM := ExceptT Failure (StateM Work)

/-- The failure of a declaration that foreign declarations do not support. -/
def ffiError (message : String) : Failure := ⟨"FFIError", message⟩

namespace DeclM

/-- A new serial number for an object made for one use. -/
def fresh : DeclM Identity := do
  let w ← get
  set { w with serial := w.serial + 1 }
  return .fresh w.serial

/-- The identity of an integer: small integers are made once. -/
def numberIdentity (n : Int) : DeclM Identity :=
  if -5 ≤ n && n ≤ 256 then pure (.small n) else fresh

/-- The table of nominal types. -/
def tags : DeclM Tags := return (← get).tags

/-- Adds a nominal type to the table. -/
def newTag (t : Tag) : DeclM Nat := do
  let w ← get
  set { w with tags := w.tags.push t }
  return w.tags.size

/-- A nominal type of the table. -/
def getTag (id : Nat) : DeclM Tag := do
  match (← get).tags[id]? with
  | some t => pure t
  | none => throw (.assertionError "")

/-- Changes a nominal type of the table. -/
def setTag (id : Nat) (t : Tag) : DeclM Unit :=
  modify fun w => { w with tags := w.tags.set! id t }

/-- The book being worked on. -/
def book : DeclM Book := return (← get).book

/-- Changes the book being worked on. -/
def modifyBook (f : Book → Book) : DeclM Unit := modify fun w => { w with book := f w.book }

/-- Issues a warning. -/
def warn (message : String) : DeclM Unit := modify fun w => { w with warnings := message :: w.warnings }

/-- The declaration of a key. -/
def lookup (key : String) : DeclM (Option Entry) :=
  return ((← book).entries.find? (·.1 == key)).map (·.2)

/-- Declares a key. A key declared before must name the same object with the
same qualifiers, unless the book allows overriding; an overridden key keeps its
place. Types declared from another book are remembered as included. -/
def declare (key : String) (value : Declared) (identity : Identity) (quals : Nat := 0)
    (included : Bool := false) : DeclM Unit := do
  let b ← book
  match b.entries.find? (·.1 == key) with
  | some (_, e) =>
    if e.identity == identity && e.quals == quals then return
    if !b.options.override then
      throw (ffiError ("multiple declarations of " ++ key ++
        " (for interactive usage, try cdef(xx, override=True))"))
  | none => pure ()
  if ((key.splitOn " ").filter (· != "")).contains "__dotdotdot__" then throw (.assertionError "")
  let entry : Entry := { value, quals, identity }
  let entries := if b.entries.any (·.1 == key) then
      b.entries.map fun (k, e) => if k == key then (k, entry) else (k, e)
    else b.entries ++ [(key, entry)]
  let included := match included, value with
    | true, .type t => if b.included.any (CType.sameValue · t) then b.included else b.included ++ [t]
    | _, _ => b.included
  modifyBook fun b => { b with entries, included }

/-- Records an integer constant; a second declaration must give the same value. -/
def addConstant (name : String) (value : Int) : DeclM Unit := do
  let b ← book
  match b.intConstants.find? (·.1 == name) with
  | some (_, v) =>
    if v == value then return
    throw (ffiError ("multiple declarations of constant: " ++ name))
  | none => modifyBook fun b => { b with intConstants := b.intConstants ++ [(name, value)] }

/-- Reads an integer the way the integer constructor reads it in a base, or fails. -/
def readIntIn (s : String) (base : Nat) : DeclM Int :=
  match Text.readInt s base with
  | some n => pure n
  | none => throw (.valueError (Text.intLiteralError s base))

/-- Declares an integer constant from the text of an integer literal of C: its
suffixes are dropped, and a leading `0` makes it octal. -/
def addIntegerConstant (name : String) (literal : String) : DeclM Unit := do
  let s := String.ofList (literal.toList.map Char.toLower)
  let s := String.ofList (s.toList.reverse.dropWhile (fun c => c == 'u' || c == 'l')).reverse
  let neg := s.startsWith "-"
  let s := if neg then (s.drop 1).toString else s
  let s := if s.startsWith "0" && s != "0" && !s.startsWith "0x" then "0o" ++ (s.drop 1).toString else s
  let v ← readIntIn s 0
  let v := if neg then -v else v
  addConstant name v
  declare ("macro " ++ name) (.number v) (← numberIdentity v)

/-- Whether a text is an integer literal of C. -/
def isIntLiteral (s : String) : Bool := (Pattern.matchAt Source.intLiteral s.toList.toArray 0).isSome

/-- Declares the macros of a source: integers, or `...`; any other value is refused. -/
def processMacros (macros : List (String × String)) : DeclM Unit := do
  for (key, value) in macros do
    let value := trimBoth value
    if isIntLiteral value then addIntegerConstant key value
    else if value == "..." then declare ("macro " ++ key) .dots (← fresh)
    else throw (Source.cdefError ("only supports one of the following syntax:\n" ++
      "  #define " ++ key ++ " ...     (literally dot-dot-dot)\n" ++
      "  #define " ++ key ++ " NUMBER  (with NUMBER an integer constant, decimal/hex/octal)\n" ++
      "got:\n  #define " ++ key ++ " " ++ value))

end DeclM

end Basis.Foreign
