import Basis.Preprocess.Session

/-!
# Defining and expanding macros

A definition `NAME replacement` makes a macro without arguments; a definition
`NAME(params) replacement`, the parenthesis right after the name, one with
arguments. A parameter `...`, or a name followed by `...`, takes all
remaining arguments, and must come last; `...` is then named `__VA_ARGS__`.

The replacement of a macro with arguments is read once, at its definition,
for the places of its parameters: `#p` becomes the argument as a text, `p`
next to `##` the argument as written, any other `p` the argument with its
own macros expanded; blanks around `##` are dropped, and a `##` with no
parameter after it stays. Before `## __VA_ARGS__`, a comma is dropped when
the variadic argument is empty.

Expanding a token list replaces each name of a macro by its replacement,
which is expanded in turn with that macro's name barred, so that a macro
never expands inside itself. A macro with arguments needs a `(` after its
name; its arguments are split at the commas outside nested parentheses, and
must be as many as its parameters (at least as many, less the variadic one,
for a variadic macro), or the call is left as written with a diagnostic. A
name of a macro with arguments with no `(` after it, past blanks, makes
expansion run for ever; at the end of the tokens, read past them.
Every token of a replacement takes the line of the name it replaces. A
`__LINE__` that is no macro being expanded becomes the number of its line.
-/

namespace Basis.Preprocess

open Cpp

/-- A macro's replacement without the blanks next to `##`. -/
def squeezePaste (ts : List Token) : List Token :=
  match ts with
  | a :: b :: rest =>
    if a.isSpace && b.text == "##" then squeezePaste (b :: rest)
    else if a.text == "##" && b.isSpace then a :: squeezePaste rest
    else a :: squeezePaste (b :: rest)
  | _ => ts
termination_by ts.length

/-- The parameters' places in a replacement, found by reading it once. -/
structure Places where
  /-- The tokens read, latest first. -/
  done : List Token := []
  /-- Arguments spliced in, expanded or not, with parameter and position. -/
  splices : List (Bool × Nat × Nat) := []
  /-- Arguments spliced in as texts. -/
  quotes : List (Nat × Nat) := []
  /-- Commas dropped with an empty variadic argument. -/
  commas : List Nat := []

/-- Reads a replacement for the places of the parameters `params`, the last
of them taking the remaining arguments when `vararg` names it. -/
def findPlaces (params : List String) (vararg : Option String) : List Token → Places → Places
  | [], st => st
  | t :: more, st =>
    let pos := st.done.length
    if t.kind == .ident && params.contains t.text then
      let p := params.idxOf t.text
      let spliced (raw : Bool) : Places :=
        { st with done := t :: st.done, splices := st.splices ++ [(!raw, p, pos)] }
      match st.done with
      | prev :: rest =>
        if prev.text == "#" then
          -- `#p`: the argument as a text, the `#` dropped
          findPlaces params vararg more
            { st with done := { t with kind := .string } :: rest, quotes := st.quotes ++ [(p, pos - 1)] }
        else if prev.text == "##" then
          -- `## p`: the argument as written, the `##` dropped
          findPlaces params vararg more
            { st with done := t :: rest, splices := st.splices ++ [(false, p, pos - 1)] }
        else findPlaces params vararg more (spliced ((more.head?.map (·.text)) == some "##"))
      | [] => findPlaces params vararg more (spliced ((more.head?.map (·.text)) == some "##"))
    else if t.text == "##" then
      let dropsComma := vararg.isSome && (st.done.head?.map (·.text)) == some "," &&
        (match more.head? with
         | some n => n.kind == .ident && some n.text == vararg
         | none => false)
      findPlaces params vararg more
        { st with done := t :: st.done, commas := if dropsComma then st.commas ++ [pos - 1] else st.commas }
    else findPlaces params vararg more { st with done := t :: st.done }

/-- A macro with arguments, its replacement read for its parameters' places. -/
def Macro.withPlaces (name : String) (body : List Token) (params : List String)
    (variadic : Bool) : Macro :=
  let st := findPlaces params (if variadic then params.getLast? else none) body {}
  { name, params, variadic, body := st.done.reverse,
    -- latest position first; equal positions keep their order
    splices := st.splices.mergeSort fun a b => b.2.2 ≤ a.2.2,
    quotes := st.quotes, commas := st.commas }

/-- Arguments of a call: the number of tokens from `(` to `)`, the arguments
without their outer blanks, and where each starts (and, when the last is not
empty, where the `)` is). -/
structure Call where
  /-- Tokens taken, `)` included; zero when the call is broken. -/
  taken : Nat
  /-- The arguments. -/
  args : List (List Token)
  /-- Start positions. -/
  starts : List Nat

/-- Collects the arguments of a call from the token after the `(` at position
`pos`, `depth` parentheses deep; `current` is the argument being read, latest
token first. -/
def collectFrom (ts : List Token) (pos depth : Nat) (current : List Token)
    (args : List (List Token)) (starts : List Nat) : Option Call :=
  match ts with
  | [] => none
  | t :: rest =>
    if t.text == "(" then collectFrom rest (pos + 1) (depth + 1) (t :: current) args starts
    else if t.text == ")" then
      if depth == 1 then
        if current.isEmpty then some ⟨pos + 1, args.reverse, starts.reverse⟩
        else some ⟨pos + 1, (strip current.reverse :: args).reverse, (pos :: starts).reverse⟩
      else collectFrom rest (pos + 1) (depth - 1) (t :: current) args starts
    else if t.text == "," && depth == 1 then
      collectFrom rest (pos + 1) depth [] (strip current.reverse :: args) ((pos + 1) :: starts)
    else collectFrom rest (pos + 1) depth (t :: current) args starts

/-- Collects the arguments of a call starting at a `(`, after blanks; a call
without its `)` is reported and taken as none. -/
def collectArgs (ts : List Token) : Cpp Call := do
  let blanks := (ts.takeWhile Token.isSpace).length
  match ts.drop blanks with
  | t :: rest =>
    if t.text == "(" then
      match collectFrom rest (blanks + 1) 1 [] [] [blanks + 1] with
      | some call => return call
      | none =>
        report (ts.getLast?.map (·.line) |>.getD 0) "Missing ')' in macro arguments"
        return ⟨0, [], []⟩
    else missingOpen
  | [] => missingOpen
where
  /-- A call without its `(`. -/
  missingOpen : Cpp Call := do
    match ts.head? with
    | some t => report t.line "Missing '(' in macro arguments"
    | none => throw .listIndex
    return ⟨0, [], []⟩

/-- Doubles the backslashes of a text. -/
def doubleBackslashes (s : String) : String := s.replace "\\" "\\\\"

/-- An argument as a text: its tokens in quotes, backslashes doubled. -/
def quoteArgument (arg : List Token) : String :=
  doubleBackslashes ("\"" ++ String.join (arg.map (·.text)) ++ "\"")

/-- Replaces the item at a position by a list. -/
def spliceAt {α : Type} (xs : List α) (pos : Nat) (ys : List α) : List α :=
  xs.take pos ++ ys ++ xs.drop (pos + 1)

/-- The replacement of a macro called with arguments: texts of arguments
first, then the splices from the latest position back, an argument expanded
once with `expandArg` and then standing expanded wherever it is spliced
later; dropped commas go last. -/
def Macro.substitute (m : Macro) (args : List (List Token))
    (expandArg : List Token → Cpp (List Token)) : Cpp (List Token) := do
  let quoted := m.quotes.foldl (fun (rep : List (Option Token)) (p, pos) =>
    rep.set pos ((rep.getD pos none).map fun t => { t with text := quoteArgument (args.getD p []) }))
    (m.body.map some)
  let emptyVararg := m.variadic && (args.getLast?.map List.isEmpty).getD false
  let rep := if emptyVararg then m.commas.foldl (fun rep pos => rep.set pos none) quoted else quoted
  let (rep, _, _) ← m.splices.foldlM (fun (rep, args, done) (expanded, p, pos) => do
      if expanded then
        let (args, done) ← if done.contains p then pure (args, done)
          else pure (args.set p (← expandArg (args.getD p [])), p :: done)
        return (spliceAt rep pos ((args.getD p []).map some), args, done)
      else return (spliceAt rep pos ((args.getD p []).map some), args, done))
    (rep, args, ([] : List Nat))
  return rep.filterMap id

/-- The diagnostic of a call with too few or too many arguments. -/
def Macro.arityMessage (m : Macro) : String :=
  let n := m.params.length
  if m.variadic then
    "Macro " ++ m.name ++ " must have at least " ++ toString (n - 1) ++
      (if n > 2 then " arguments" else " argument")
  else "Macro " ++ m.name ++ " requires " ++ toString n ++ " arguments"

/-- The arguments a macro receives from a call: for a variadic macro, the
missing variadic argument empty, or else everything from its start to the
`)` as written, blanks included. `none` when they do not fit. -/
def Macro.arguments (m : Macro) (call : Call) (after : List Token) : Option (List (List Token)) :=
  let n := m.params.length
  if !m.variadic then
    if call.args.length == n then some call.args else none
  else if call.args.length + 1 < n then none
  else if call.args.length + 1 == n then some (call.args ++ [[]])
  else
    let start := call.starts.getD (n - 1) 0
    some (call.args.take (n - 1) ++ [(after.drop start).take (call.taken - 1 - start)])

/-- Sets the line of every token. -/
def atLine (line : Nat) (ts : List Token) : List Token := ts.map fun t => { t with line }

/-- Expands the macros of a token list, given `sub` to expand a replacement
with names barred and `subArg` to expand an argument, and `seen` the names
barred here; `acc` holds the tokens done, latest first. -/
def expandLoop (sub : List String → List Token → Cpp (List Token))
    (subArg : List Token → Cpp (List Token)) (seen : List String)
    (ts : List Token) (acc : List Token) : Cpp (List Token) :=
  match ts with
  | [] => return acc.reverse
  | t :: rest => do
    let plain := fun (_ : Unit) =>
      if t.kind == .ident && t.text == "__LINE__" then
        { t with kind := .integer, text := toString t.line }
      else t
    if t.kind != .ident || seen.contains t.text then
      expandLoop sub subArg seen rest (plain () :: acc)
    else
      match ← lookup t.text with
      | none => expandLoop sub subArg seen rest (plain () :: acc)
      | some m =>
        if !m.takesArguments then
          let ex ← sub (t.text :: seen) m.body
          expandLoop sub subArg seen rest ((atLine t.line ex).reverse ++ acc)
        else
          let blanks := rest.takeWhile Token.isSpace
          let after := rest.drop blanks.length
          match after with
          | [] => throw .listIndex
          | p :: _ =>
            if p.text != "(" then
              -- a name of a macro with arguments and no call: the name is looked at
              -- again without moving on, for ever
              throw .endless
            else
              let call ← collectArgs after
              let resume := after.drop call.taken
              match m.arguments call after with
              | none =>
                report t.line m.arityMessage
                expandLoop sub subArg seen resume
                  ((after.take call.taken).reverse ++ blanks.reverse ++ t :: acc)
              | some args =>
                let rep ← m.substitute args subArg
                let rep ← sub (t.text :: seen) rep
                expandLoop sub subArg seen resume ((atLine t.line rep).reverse ++ acc)
termination_by ts.length
decreasing_by
  all_goals simp only [List.length_cons, List.length_drop]
  all_goals omega

/-- The depth to which expansions nest: a replacement's expansion is one
level deeper than the expansion it is part of, an argument's two. -/
def expansionDepth : Nat := 985

/-- Expands the macros of a token list, the names in `seen` barred, within
`fuel` levels of nesting. -/
def expandWithin : Nat → List String → List Token → Cpp (List Token)
  | 0, _, _ => throw .recursion
  | fuel + 1, seen, ts =>
    let subArg : List Token → Cpp (List Token) := fun arg =>
      match fuel with
      | 0 => throw .recursion
      | f + 1 => expandWithin f [] arg
    expandLoop (expandWithin fuel) subArg seen ts []

/-- Expands the macros of a token list. -/
def expand (ts : List Token) : Cpp (List Token) := expandWithin expansionDepth [] ts

/-- Checks the parameters of a definition: each a name, or `...` or a name
with `...` after it taking the rest, which must come last. The names, and
whether the last is variadic; none after printing why not, when a
parameter is wrong. -/
def readParams : List (List Token) → Bool → List String → Cpp (Option (List String × Bool))
  | [], variadic, acc => return some (acc.reverse, variadic)
  | a :: rest, variadic, acc => do
    if variadic then
      print "No more arguments may follow a variadic argument"
      return none
    let text := String.join (a.map (·.text))
    if text == "..." then readParams rest true ("__VA_ARGS__" :: acc)
    else
      match a with
      | first :: more =>
        if text.endsWith "..." && first.kind == .ident then readParams rest true (first.text :: acc)
        else if !more.isEmpty || first.kind != .ident then
          print "Invalid macro argument"
          return none
        else readParams rest false (first.text :: acc)
      | [] =>
        -- an empty parameter
        print "Bad macro definition"
        return none

/-- Defines a macro from the tokens of a definition. -/
def define (tokens : List Token) : Cpp Unit := do
  match tokens with
  | [] => print "Bad macro definition"
  | [name] => store { name := name.text, body := [] }
  | name :: kind :: rest =>
    if kind.isSpace then store { name := name.text, body := strip rest }
    else if kind.text == "(" then
      let call ← collectArgs (kind :: rest)
      match ← readParams call.args false [] with
      | some (params, variadic) =>
        let body := squeezePaste (strip ((kind :: rest).drop call.taken))
        store (Macro.withPlaces name.text body params variadic)
      | none => pure ()
    else print "Bad macro definition"

/-- Defines a macro from a text, its tokens counted on from the line the
session has reached. -/
def defineText (text : String) : Cpp Unit := do
  let s ← get
  set { s with textLine := s.textLine + lineBreaks text }
  define (tokensOf text s.textLine)

/-- Removes the macro a directive names, its first token. -/
def undefine (tokens : List Token) : Cpp Unit := do
  match tokens with
  | t :: _ => remove t.text
  | [] => throw .listIndex

end Basis.Preprocess
