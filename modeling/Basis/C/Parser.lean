import Basis.C.Parser.Reduce

/-!
# Parsing C

`parseSource` reads a translation unit with the LALR(1) table of the grammar
of C. The parser asks the lexer for a token only when it needs one to decide,
so that a declaration is reduced, and its names recorded in the scopes, before
the lexer reads the token after its semicolon: a type defined on one line is a
type name on the next.

When the table has no action for the state and the next token, the parse
fails with `before: ` and the token's text, at the token's line and column,
or with `At end of input` at the end. A problem found by the lexer fails the
parse at once, at the problem's place.
-/

namespace Basis.C

namespace ParseM

/-- The next token, `none` at the end; a brace opens or ends a scope as it is read. -/
def fetch : ParseM (Option Token) := do
  let st ← get
  match st.lexer.next (isTypeIn st.scopes ∘ some) with
  | .error f => throw f
  | .ok (event, lx) =>
    set { st with lexer := lx }
    match event with
    | .token t =>
      if t.kind == .punct "\x7b" then pushScope
      else if t.kind == .punct "\x7d" then popScope
      modify fun st => { st with lastToken := some t }
      return some t
    | .problem message line column =>
      failAt (Coord.render ⟨lx.filename, line, column⟩) message
    | .finished =>
      modify fun st => { st with lastToken := none }
      return none

/-- The number of the terminal of a token, the end being `$end`. -/
def terminalOf : Option Token → Nat
  | some t => (Grammar.terminalIndex t.kind.name).getD 0
  | none => (Grammar.terminalIndex "$end").getD 0

/-- The failure at a token for which the table has no action. -/
def syntaxError {α : Type} : Option Token → ParseM α
  | none => failAt "" "At end of input"
  | some t => do
    let lx := (← get).lexer
    failAt (Coord.render ⟨lx.filename, t.line, Lexer.column lx.input t.offset⟩) ("before: " ++ t.text)

/-- Runs the automaton for at most `fuel` steps from a stack of states and a
stack of symbols, with the next token if it has been read. -/
def drive : Nat → List Nat → List Entry → Option (Option Token) → ParseM Sem
  | 0, _, _, _ => throw ⟨"RecursionError", "parser step limit reached"⟩
  | fuel + 1, states, symbols, lookahead => do
    let state := states.headD 0
    let token ← match lookahead with
      | some t => pure t
      | none => fetch
    match Grammar.action state (terminalOf token) with
    | none => syntaxError token
    | some a =>
      if a > 0 then
        let sym : Entry := match token with
          | some t => ⟨.text t.text, t.line⟩
          | none => ⟨.none, 0⟩
        drive fuel (a.toNat :: states) (sym :: symbols) none
      else if a == 0 then
        return (symbols.headD default).sem
      else
        let some prod := Grammar.productions[(-a).toNat]? | throw ⟨"SystemError", "bad production"⟩
        let n := prod.rhs.length
        let args := (symbols.take n).reverse.toArray
        let value ← reduce prod args
        let states' := states.drop n
        let some next := Grammar.goto (states'.headD 0) prod.lhsIndex | throw ⟨"SystemError", "bad goto"⟩
        drive fuel (next :: states') (⟨value, 0⟩ :: symbols.drop n) (some token)

end ParseM

/-- Parses a translation unit of C, naming its file `filename` in places. The
lexer starts in `mode`, the mode a lexer was left in by an earlier source; the
mode the lexer is left in comes back with the outcome, also after a failure. -/
def parseSource (source : String) (filename : String) (mode : LexMode := .normal) :
    Except Failure Node × LexMode :=
  let lx : Lexer := { Lexer.start source filename with mode := mode }
  let fuel := 64 * (lx.input.size + 16)
  let (outcome, st) := ((ParseM.drive fuel [0] [] none).run).run { lexer := lx }
  let tree := match outcome with
    | .ok (Sem.node n) => .ok n
    | .ok _ => .error ⟨"SystemError", "no translation unit"⟩
    | .error f => .error f
  (tree, st.lexer.mode)

end Basis.C
