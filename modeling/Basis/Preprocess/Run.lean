import Basis.Text.Lines
import Basis.Text.Blank
import Basis.Preprocess.Macro
import Basis.Preprocess.Condition.Eval

/-!
# Running the preprocessor over a file

A file is read in stages. Trigraphs (`??=` for `#` and eight more) are
replaced; the text is cut into lines, blanks at their ends removed, and a
line ending in a backslash is joined with the next (which is left empty, so
that later lines keep their numbers); the lines are joined again and cut
into tokens, and the tokens into lines, each ending after a blank with a line
break.

A line whose first token after blanks is `#` is a directive and gives no
output. Other lines wait, while output is enabled, until a directive that
changes macros, or the end of the file, has them expanded and passed on.
`#define`, `#undef` and `#include` act only where output is enabled; the
conditionals `#if`, `#ifdef`, `#ifndef`, `#elif`, `#else` and `#endif` nest,
and a branch is enabled only inside an enabled one. Other directives are
ignored. Included files are never found.

A condition has `defined NAME` and `defined(NAME)` replaced by `1` or `0`,
then its macros expanded, each remaining name replaced by `0L` and the
suffix letters of each integer removed; its tokens are joined into a text,
`&&`, `||` and `!` spelled `and`, `or` and `not`, and the text computed.

The output stops after `outputCap` tokens: what follows is not read.
-/

namespace Basis.Preprocess

open Cpp

/-- The character a trigraph's last character stands for. -/
def trigraphOf : Char → Option Char
  | '=' => some '#' | '/' => some '\\' | '\'' => some '^'
  | '(' => some '[' | ')' => some ']' | '!' => some '|'
  | '<' => some '\x7b' | '>' => some '\x7d' | '-' => some '~'
  | _ => none

/-- A text with its trigraphs replaced, left to right. -/
def replaceTrigraphs (cs : List Char) : List Char :=
  match cs with
  | '?' :: '?' :: c :: rest =>
    match trigraphOf c with
    | some r => r :: replaceTrigraphs rest
    | none => '?' :: replaceTrigraphs ('?' :: c :: rest)
  | c :: rest => c :: replaceTrigraphs rest
  | [] => []
termination_by cs.length

/-- Lines with each one ending in a backslash joined with the next: `cur`
is being built and has taken `taken` lines after it, which stay as empty
lines. -/
def joinFrom (cur : String) (taken : Nat) : List String → List String
  | [] => cur :: List.replicate taken ""
  | r :: more =>
    if cur.endsWith "\\" then joinFrom ((cur.dropEnd 1).toString ++ r) (taken + 1) more
    else cur :: List.replicate taken "" ++ joinFrom r 0 more

/-- Lines joined where one ends in a backslash. -/
def joinContinued : List String → List String
  | [] => []
  | l :: rest => joinFrom l 0 rest

/-- A text without the blanks at its end. -/
def trimEnd (s : String) : String := String.ofList (s.toList.reverse.dropWhile Text.isBlank).reverse

/-- The tokens of a file, trigraphs replaced and lines joined. -/
def fileTokens (input : String) : List Token :=
  let text := String.ofList (replaceTrigraphs input.toList)
  let lines := joinContinued ((Text.splitLines text).map trimEnd)
  tokensOf ("\n".intercalate lines) 1

/-- Tokens cut into lines, each ending after a blank with a line break;
`cur` is the line being read, latest token first. -/
def groupFrom (cur : List Token) : List Token → List (List Token)
  | [] => if cur.isEmpty then [] else [cur.reverse]
  | t :: rest =>
    if t.endsLine then (t :: cur).reverse :: groupFrom [] rest
    else groupFrom (t :: cur) rest

/-- The lines of a file's tokens. -/
def groupLines (ts : List Token) : List (List Token) := groupFrom [] ts

/-- What `defined` is followed by: how many tokens of `rest` it takes, the
last of them the name or parenthesis ending it, and whether the name is a
macro's, as `1L` or `0L`. Tokens other than blanks, a name and parentheses
are reported. -/
def scanDefined (line : Nat) : List Token → Nat → Bool → String → Cpp (Nat × String)
  | [], k, _, result => return (k, result)
  | t :: more, k, paren, result => do
    if t.isSpace then scanDefined line more (k + 1) paren result
    else if t.kind == .ident then
      let r := if (← lookup t.text).isSome then "1L" else "0L"
      if !paren then return (k, r) else scanDefined line more (k + 1) paren r
    else if t.text == "(" then scanDefined line more (k + 1) true result
    else if t.text == ")" then return (k, result)
    else
      report line "Malformed defined()"
      scanDefined line more (k + 1) paren result

/-- A condition with each `defined` and what it names replaced by an integer. -/
def replaceDefined (ts : List Token) : Cpp (List Token) :=
  match ts with
  | [] => return []
  | t :: rest => do
    if t.kind == .ident && t.text == "defined" then
      let (k, result) ← scanDefined t.line rest 0 false "0L"
      let tail ← replaceDefined (rest.drop (k + 1))
      return { t with kind := .integer, text := result } :: tail
    else return t :: (← replaceDefined rest)
termination_by ts.length
decreasing_by
  all_goals simp only [List.length_cons, List.length_drop]
  all_goals omega

/-- Whether a character may end an integer in a condition. -/
def isHexDigitChar (c : Char) : Bool := "0123456789abcdefABCDEF".contains c

/-- The text a token of an expanded condition gives: a name `0L`, an integer
without its suffix letters. -/
def conditionText (t : Token) : Cpp String :=
  match t.kind with
  | .ident => return "0L"
  | .integer =>
    let kept := (t.text.toList.reverse.dropWhile (!isHexDigitChar ·)).reverse
    if kept.isEmpty then throw .stringIndex else return String.ofList kept
  | _ => return t.text

/-- Whether a condition holds. -/
def conditionHolds (ts : List Token) : Cpp Bool := do
  let ts ← expand (← replaceDefined ts)
  let parts ← ts.mapM conditionText
  let text := (((String.join parts).replace "&&" " and ").replace "||" " or ").replace "!" " not "
  match Condition.holds? text with
  | some b => return b
  | none => throw .badCondition

/-- Reads the file named by an include directive; none is ever found, so this
reports that, or that the directive is malformed. -/
def includeFile (tokens : List Token) : Cpp Unit := do
  if tokens.isEmpty then return
  let tokens ← match tokens with
    | t :: _ => if t.text != "<" && t.kind != .string then expand tokens else pure tokens
    | [] => pure tokens
  match tokens with
  | [] => throw .listIndex
  | t :: rest =>
    let name? ←
      if t.text == "<" then
        match rest.findIdx? (·.text == ">") with
        | some i => pure (some (String.join ((rest.take i).map (·.text))))
        | none =>
          print "Malformed #include <...>"
          pure none
      else if t.kind == .string then pure (some ((t.text.drop 1).dropEnd 1).toString)
      else
        print "Malformed #include statement"
        pure none
    match name? with
    | some name =>
      if name.contains '\x00' then throw .nullByte
      print ("Couldn't find '" ++ name ++ "'")
    | none => pure ()

/-- The most tokens passed on. -/
def outputCap : Nat := 50001

/-- The state of reading a file's lines. -/
structure Reading where
  /-- Text lines waiting to be expanded. -/
  waiting : Array Token := #[]
  /-- Whether output is enabled. -/
  enabled : Bool := true
  /-- Whether a branch of the innermost conditional was taken. -/
  taken : Bool := false
  /-- The enclosing conditionals' states, innermost first. -/
  outer : List (Bool × Bool) := []
  /-- The texts of the tokens passed on. -/
  output : Array String := #[]
  deriving Inhabited

/-- Expands the waiting lines and passes them on; true when the output is
full. -/
def Reading.flush (r : Reading) : Cpp (Reading × Bool) := do
  let ts ← expand r.waiting.toList
  let out := r.output ++ (ts.map (·.text)).toArray
  if out.size ≥ outputCap then return ({ r with waiting := #[], output := out.extract 0 outputCap }, true)
  return ({ r with waiting := #[], output := out }, false)

/-- Opens a conditional whose first branch is taken when `holds` says so,
the condition evaluated only where output is enabled. -/
def Reading.openIf (r : Reading) (holds : Cpp Bool) : Cpp Reading := do
  let r := { r with outer := (r.enabled, r.taken) :: r.outer }
  if !r.enabled then return r
  if ← holds then return { r with taken := true }
  return { r with enabled := false, taken := false }

/-- Acts on a directive; true when the output is full. -/
def Reading.directive (r : Reading) (firstLine : Nat) (name : String) (args : List Token) :
    Cpp (Reading × Bool) := do
  match name with
  | "define" | "include" | "undef" =>
    if !r.enabled then return (r, false)
    let (r, full) ← r.flush
    if full then return (r, true)
    if name == "define" then define args
    else if name == "include" then
      if (← lookup "__FILE__").isNone then throw .noFileMacro
      includeFile args
    else undefine args
    return (r, false)
  | "ifdef" | "ifndef" =>
    let r ← r.openIf do
      match args with
      | a :: _ => return (← lookup a.text).isSome == (name == "ifdef")
      | [] => throw .listIndex
    return (r, false)
  | "if" => return (← r.openIf (conditionHolds args), false)
  | "elif" =>
    match r.outer with
    | (outerEnabled, _) :: _ =>
      if !outerEnabled then return (r, false)
      if r.enabled then return ({ r with enabled := false }, false)
      if r.taken then return (r, false)
      if ← conditionHolds args then return ({ r with enabled := true, taken := true }, false)
      return (r, false)
    | [] =>
      report firstLine "Misplaced #elif"
      return (r, false)
  | "else" =>
    match r.outer with
    | (outerEnabled, _) :: _ =>
      if !outerEnabled then return (r, false)
      if r.enabled then return ({ r with enabled := false }, false)
      if r.taken then return (r, false)
      return ({ r with enabled := true, taken := true }, false)
    | [] =>
      report firstLine "Misplaced #else"
      return (r, false)
  | "endif" =>
    match r.outer with
    | (enabled, taken) :: rest => return ({ r with enabled, taken, outer := rest }, false)
    | [] =>
      report firstLine "Misplaced #endif"
      return (r, false)
  | _ => return (r, false)

/-- Reads one line; true when the output is full. -/
def Reading.line (r : Reading) (line : List Token) : Cpp (Reading × Bool) := do
  match line.dropWhile Token.isSpace with
  | t :: rest =>
    if t.text == "#" then
      match strip rest with
      | d :: more => return ← r.directive d.line d.text (strip more)
      | [] => return (r, false)
  | [] => pure ()
  if r.enabled then return ({ r with waiting := r.waiting ++ line.toArray }, false)
  else return (r, false)

/-- Reads lines until the output is full, then passes on what waits. -/
def Reading.lines (r : Reading) : List (List Token) → Cpp Reading
  | [] => do return (← r.flush).1
  | l :: ls => do
    let (r, full) ← r.line l
    if full then return r else r.lines ls

/-- Preprocesses a file under a name: defines the macro `__FILE__` naming it,
then reads its lines. The texts of the tokens passed on. -/
def preprocess (input file : String) : Cpp (Array String) := do
  defineText ("__FILE__ \"" ++ file ++ "\"")
  modify fun s => { s with source := some file }
  let r ← ({} : Reading).lines (groupLines (fileTokens input))
  return r.output

end Basis.Preprocess
