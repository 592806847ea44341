import Basis.Failure
import Basis.Preprocess.Token

/-!
# The preprocessor's session

A session holds the macros defined so far, the name of the file being read
(none before reading starts), the line on which the next macro given as a
text starts, and the diagnostics printed so far. Diagnostics are lines of
text; most name the file and the line, as `file:line message`.

Some inputs stop the preprocessor altogether: these are its faults, each
turned into a failure by `Fault.toFailure`. The diagnostics printed before a
fault are kept. One fault, `endless`, stands for a run that never ends.
-/

namespace Basis.Preprocess

/-- A preprocessor macro: its name, its replacement, and for a macro taking
arguments the names of its parameters and where they stand in the
replacement. -/
structure Macro where
  /-- The name. -/
  name : String
  /-- The replacement, parameters in place. -/
  body : List Token
  /-- The names of the parameters; none for a macro without arguments. -/
  params : List String := []
  /-- Whether the last parameter takes all remaining arguments. -/
  variadic : Bool := false
  /-- Where arguments are spliced in, latest position first: with their own
  macros expanded (`true`) or as written (`false`). -/
  splices : List (Bool × Nat × Nat) := []
  /-- Where arguments are spliced in as texts: parameter and position. -/
  quotes : List (Nat × Nat) := []
  /-- Commas dropped when the variadic argument is empty. -/
  commas : List Nat := []
  deriving Inhabited

namespace Macro

/-- Whether a macro takes arguments: it has parameters. -/
def takesArguments (m : Macro) : Bool := !m.params.isEmpty

end Macro

/-- Why preprocessing stops. -/
inductive Fault where
  /-- A token list read past its end. -/
  | listIndex
  /-- An integer in a condition stripped to nothing. -/
  | stringIndex
  /-- A diagnostic about a file, issued before reading starts. -/
  | noSource
  /-- The macro naming the current file was removed. -/
  | noFileMacro
  /-- A condition that cannot be computed. -/
  | badCondition
  /-- A file name with a null character. -/
  | nullByte
  /-- Macros expanding each other without end. -/
  | recursion
  /-- A name of a macro with arguments followed by no `(`: the procedure
  looks at that name again and again and never returns. -/
  | endless
  deriving DecidableEq, Inhabited

/-- The failure a fault answers with. -/
def Fault.toFailure : Fault → Failure
  | .listIndex => Failure.listIndex
  | .stringIndex => .indexError "string index out of range"
  | .noSource => .noAttribute "Preprocessor" "source"
  | .noFileMacro => .keyError "'__FILE__'"
  | .badCondition => .nameError "name 'StandardError' is not defined"
  | .nullByte => .valueError "embedded null byte"
  | .recursion => ⟨"RecursionError", "maximum recursion depth exceeded while calling a Python object"⟩
  -- no answer ever comes; the failure only marks the run that would hang
  | .endless => ⟨"Endless", "the preprocessor never returns"⟩

/-- The state of a preprocessor. -/
structure Session where
  /-- The macros, each name once. -/
  macros : List Macro := []
  /-- The name of the file being read; none before reading starts. -/
  source : Option String := none
  /-- The line on which the next macro given as a text starts. -/
  textLine : Nat := 2
  /-- The diagnostics printed, in order. -/
  printed : Array String := #[]
  deriving Inhabited

/-- Computations of the preprocessor. -/
abbrev Cpp := ExceptT Fault (StateM Session)

namespace Cpp

/-- Prints a line. -/
def print (line : String) : Cpp Unit :=
  modify fun s => { s with printed := s.printed.push line }

/-- Prints a diagnostic about a line of the current file. -/
def report (line : Nat) (message : String) : Cpp Unit := do
  match (← get).source with
  | some file => print (file ++ ":" ++ toString line ++ " " ++ message)
  | none => throw .noSource

/-- The macro of a name. -/
def lookup (name : String) : Cpp (Option Macro) := do
  return (← get).macros.find? (·.name == name)

/-- Defines a macro, replacing one of the same name. -/
def store (m : Macro) : Cpp Unit :=
  modify fun s => { s with macros := m :: s.macros.filter (·.name != m.name) }

/-- Removes the macro of a name, if there is one. -/
def remove (name : String) : Cpp Unit :=
  modify fun s => { s with macros := s.macros.filter (·.name != name) }

end Cpp

end Basis.Preprocess
