import Basis.Preprocess.Condition.Lexeme

/-!
# Expressions of a condition

The syntax tree of a condition and its reader. Operators bind as follows,
loosest first: a comma making a tuple, `or`, `and`, `not`, comparisons
(which chain: `a < b < c` is `a < b and b < c`), `|`, `^`, `&`, shifts,
`+` and `-`, `*`, `/`, `//`, `%` and `@`, the signs `+`, `-` and `~`, then
`**`, which groups to the right and binds its left side tighter than a sign.
After an operand come calls, subscripts and slices, and attributes.
Operands are numbers, texts (adjacent ones joined), `True`, `False`, `None`,
`...`, and tuples, lists, sets and dictionaries written out.

A name other than these and the operator keywords reads as an operand that
fails when it is evaluated, and so does a call or an attribute: nothing a
condition can hold has attributes worth reading or can be called.
-/

namespace Basis.Preprocess.Condition

/-- The binary operators. -/
inductive BinOp where
  | add | sub | mul | matMul | div | floorDiv | mod | pow
  | shiftLeft | shiftRight | bitAnd | bitOr | bitXor
  deriving DecidableEq, Inhabited

/-- The comparisons. -/
inductive CompareOp where
  | eq | ne | lt | le | gt | ge
  deriving DecidableEq, Inhabited

/-- The signs. -/
inductive UnaryOp where
  | neg | pos | invert
  deriving DecidableEq, Inhabited

/-- The expressions of a condition. -/
inductive Expr where
  /-- An integer. -/
  | int (n : Int)
  /-- A float. -/
  | float (x : Float)
  /-- A text. -/
  | text (s : String)
  /-- `None`. -/
  | none
  /-- `True` or `False`. -/
  | truth (b : Bool)
  /-- `...`. -/
  | ellipsis
  /-- An operand whose evaluation fails. -/
  | broken
  /-- A tuple. -/
  | tuple (items : List Expr)
  /-- A list. -/
  | list (items : List Expr)
  /-- A set. -/
  | set (items : List Expr)
  /-- A dictionary, its keys and values in order. -/
  | dict (keys values : List Expr)
  /-- A sign applied. -/
  | unary (op : UnaryOp) (e : Expr)
  /-- `not`. -/
  | not (e : Expr)
  /-- A binary operator applied. -/
  | binary (op : BinOp) (a b : Expr)
  /-- A comparison. -/
  | compare (op : CompareOp) (a b : Expr)
  /-- `and`. -/
  | and (a b : Expr)
  /-- `or`. -/
  | or (a b : Expr)
  /-- A subscript. -/
  | index (e i : Expr)
  /-- A slice; a missing bound is `None`. -/
  | slice (e lo hi step : Expr)
  deriving Inhabited

/-- The reserved words, which are no names. -/
def keywords : List String :=
  ["False", "None", "True", "and", "as", "assert", "async", "await", "break", "class",
   "continue", "def", "del", "elif", "else", "except", "finally", "for", "from", "global",
   "if", "import", "in", "is", "lambda", "nonlocal", "not", "or", "pass", "raise",
   "return", "try", "while", "with", "yield"]

/-- Reading lexemes. -/
abbrev Reader := StateT (List Lexeme) Option

namespace Reader

/-- The next lexeme, left in place. -/
def peek : Reader (Option Lexeme) := do return (← get).head?

/-- Drops the next lexeme. -/
def skip : Reader Unit := modify List.tail

/-- Whether a lexeme is an operator. -/
def isSymbol (s : String) : Option Lexeme → Bool
  | some (.symbol t) => t == s
  | _ => false

/-- Whether a lexeme is a given word. -/
def isWord (w : String) : Option Lexeme → Bool
  | some (.name t) => t == w
  | _ => false

/-- Takes an operator if it comes next. -/
def accept (s : String) : Reader Bool := do
  if isSymbol s (← peek) then skip; return true else return false

/-- Takes an operator that must come next. -/
def expect (s : String) : Reader Unit := do
  if ← accept s then return () else failure

/-- Folds operators into an expression while `step` finds one, at most
`bound` times. -/
def chain (bound : Nat) (step : Expr → Reader (Option Expr)) (acc : Expr) : Reader Expr :=
  match bound with
  | 0 => pure acc
  | b + 1 => do
    match ← step acc with
    | some acc' => chain b step acc'
    | Option.none => pure acc

/-- Items up to a closing bracket, separated by commas, a comma allowed at
the end, and whether any comma came; at most `bound` items. -/
def items {α : Type} (bound : Nat) (item : Reader α) (closer : String) (acc : List α)
    (comma : Bool) : Reader (List α × Bool) :=
  match bound with
  | 0 => failure
  | b + 1 => do
    if ← accept closer then return (acc.reverse, comma)
    let e ← item
    if ← accept "," then items b item closer (e :: acc) true
    else
      expect closer
      return ((e :: acc).reverse, comma)

/-- The number of lexemes left, a bound on every loop. -/
def left : Reader Nat := do return (← get).length + 1

end Reader

open Reader

/-- The binary operators of each level. -/
def levelOps : Nat → List (String × BinOp)
  | 5 => [("|", .bitOr)]
  | 6 => [("^", .bitXor)]
  | 7 => [("&", .bitAnd)]
  | 8 => [("<<", .shiftLeft), (">>", .shiftRight)]
  | 9 => [("+", .add), ("-", .sub)]
  | 10 => [("*", .mul), ("/", .div), ("//", .floorDiv), ("%", .mod), ("@", .matMul)]
  | _ => []

/-- The comparison a lexeme spells. -/
def compareOf : Option Lexeme → Option CompareOp
  | some (.symbol "==") => some .eq
  | some (.symbol "!=") => some .ne
  | some (.symbol "<") => some .lt
  | some (.symbol "<=") => some .le
  | some (.symbol ">") => some .gt
  | some (.symbol ">=") => some .ge
  | _ => Option.none

/-- Joins comparisons that share their operands into a chain. -/
def chainCompare (first : Expr) : List (CompareOp × Expr) → Expr
  | [] => first
  | (op, e) :: rest =>
    rest.foldl (fun (acc, prev) (op', e') => (Expr.and acc (.compare op' prev e'), e'))
      (Expr.compare op first e, e) |>.1

/-- Reads the operands of a comparison chain after its first, at most `bound`. -/
def comparisons (bound : Nat) (operand : Reader Expr) (acc : List (CompareOp × Expr)) :
    Reader (List (CompareOp × Expr)) :=
  match bound with
  | 0 => pure acc.reverse
  | b + 1 => do
    match compareOf (← peek) with
    | some op =>
      skip
      let e ← operand
      comparisons b operand ((op, e) :: acc)
    | Option.none => pure acc.reverse

/-- Reads the items of a tuple after its first, each after a comma, a comma
allowed at the end; at most `bound` items. -/
def tupleRest (bound : Nat) (item : Reader Expr) (acc : List Expr) : Reader (List Expr) :=
  match bound with
  | 0 => pure acc.reverse
  | b + 1 => do
    if ← accept "," then
      match ← peek with
      | Option.none | some .newline => pure acc.reverse
      | _ => tupleRest b item ((← item) :: acc)
    else pure acc.reverse

/-- Reads an operand; `sub` reads an expression at a level of binding. -/
def parseAtom (bound : Nat) (sub : Nat → Reader Expr) : Reader Expr := do
  match ← peek with
  | some (.int n) => skip; return .int n
  | some (.float x) => skip; return .float x
  | some (.text s) =>
    skip
    -- adjacent texts are one
    chain bound (fun acc => do
      match ← peek, acc with
      | some (.text t), .text s => skip; pure (some (.text (s ++ t)))
      | _, _ => pure Option.none) (.text s)
  | some (.name n) =>
    skip
    if n == "True" then return .truth true
    else if n == "False" then return .truth false
    else if n == "None" then return .none
    else if keywords.contains n then failure
    else return .broken
  | some (.symbol "...") => skip; return .ellipsis
  | some (.symbol "(") =>
    skip
    let (es, comma) ← items bound (sub 1) ")" [] false
    match es, comma with
    | [e], false => return e
    | _, _ => return .tuple es
  | some (.symbol "[") =>
    skip
    let (es, _) ← items bound (sub 1) "]" [] false
    return .list es
  | some (.symbol "\x7b") =>
    skip
    if ← accept "\x7d" then return .dict [] []
    let first ← sub 1
    if ← accept ":" then
      let v ← sub 1
      let entry : Reader (Expr × Expr) := do
        let k ← sub 1
        expect ":"
        return (k, ← sub 1)
      let rest ← if ← accept "," then items bound entry "\x7d" [] false
        else do expect "\x7d"; pure ([], false)
      let entries := (first, v) :: rest.1
      return .dict (entries.map (·.1)) (entries.map (·.2))
    else
      let rest ← if ← accept "," then items bound (sub 1) "\x7d" [] false
        else do expect "\x7d"; pure ([], false)
      return .set (first :: rest.1)
  | _ => failure

/-- Reads a subscript or a slice of `target` after its opening bracket. -/
def parseSubscript (bound : Nat) (sub : Nat → Reader Expr) (target : Expr) : Reader Expr := do
  let part : Reader (Option Expr) := do
    match ← peek with
    | some (.symbol ":") | some (.symbol "]") => pure Option.none
    | _ => pure (some (← sub 1))
  let lo ← part
  if ← accept ":" then
    let hi ← part
    let step ← if ← accept ":" then part else pure Option.none
    expect "]"
    return .slice target (lo.getD .none) (hi.getD .none) (step.getD .none)
  match lo with
  | Option.none => failure
  | some e =>
    if ← accept "," then
      let (es, _) ← items bound (sub 1) "]" [] false
      return .index target (.tuple (e :: es))
    expect "]"
    return .index target e

/-- Reads what follows an operand: a call, a subscript or an attribute. -/
def parseTrailer (bound : Nat) (sub : Nat → Reader Expr) (target : Expr) : Reader (Option Expr) := do
  if ← accept "(" then
    let _ ← items bound (sub 1) ")" [] false
    return some .broken
  if ← accept "[" then return some (← parseSubscript bound sub target)
  if ← accept "." then
    match ← peek with
    | some (.name n) =>
      if keywords.contains n then failure
      skip
      return some .broken
    | _ => failure
  return Option.none

/-- Reads an expression at a level of binding (0 the loosest, a tuple; 13 an
operand with its trailers), within `fuel` levels of nesting. -/
def parseAt : Nat → Nat → Reader Expr
  | 0, _ => failure
  | fuel + 1, level => do
    let bound ← left
    let sub := parseAt fuel
    let next := sub (level + 1)
    match level with
    | 0 =>
      let first ← next
      if isSymbol "," (← peek) then return .tuple (← tupleRest bound next [first])
      else return first
    | 1 | 2 =>
      let word := if level == 1 then "or" else "and"
      let first ← next
      chain bound (fun acc => do
        if isWord word (← peek) then
          skip
          let e ← next
          pure (some (if level == 1 then .or acc e else .and acc e))
        else pure Option.none) first
    | 3 =>
      if isWord "not" (← peek) then
        skip
        return .not (← sub 3)
      else next
    | 4 =>
      let first ← next
      return chainCompare first (← comparisons bound next [])
    | 11 =>
      match ← peek with
      | some (.symbol "-") => skip; return .unary .neg (← sub 11)
      | some (.symbol "+") => skip; return .unary .pos (← sub 11)
      | some (.symbol "~") => skip; return .unary .invert (← sub 11)
      | _ => next
    | 12 =>
      let base ← next
      if ← accept "**" then return .binary .pow base (← sub 11)
      else return base
    | 13 =>
      let atom ← parseAtom bound sub
      chain bound (parseTrailer bound sub) atom
    | _ =>
      let ops := levelOps level
      let first ← next
      chain bound (fun acc => do
        match ← peek with
        | some (.symbol s) =>
          match ops.lookup s with
          | some op =>
            skip
            pure (some (.binary op acc (← next)))
          | Option.none => pure Option.none
        | _ => pure Option.none) first

/-- Reads a condition from its lexemes: one expression, with line ends only
before and after it. -/
def Expr.read? (ls : List Lexeme) : Option Expr :=
  let isEnd : Lexeme → Bool := fun l => l matches .newline
  let ls := ls.dropWhile isEnd
  match (parseAt (16 * (ls.length + 1)) 0).run ls with
  | some (e, rest) => if rest.all isEnd then some e else Option.none
  | Option.none => Option.none

end Basis.Preprocess.Condition
