import Basis.C.Token
import Basis.Pattern.Match
import Basis.Value.Repr
import Basis.Failure

/-!
# Splitting C source into tokens

The lexer reads C source that has been through a preprocessor, so the only
directives it meets are line markers (`# 12 "file.c"` or `#line 12 "file.c"`),
pragmas, which it skips, and other directives, whose `#` becomes a token.

At each place the lexer skips blanks, then takes the first of its rules whose
pattern matches there; the rules are tried in a fixed order, not for the
longest match, so that `08` is refused as an octal constant before it could be
read as two decimal ones. A rule that finds something wrong reports a problem
at the place where its match starts and goes on one character after the end
of its match; a character that no rule matches is reported and skipped.

A line marker sets the number of the line after it and, when it names one, the
file. Its number is taken as written; a number with a suffix such as `5u`
cannot be read and stops the lexer with a `ValueError`.
-/

namespace Basis.C

open Pattern

namespace Lexer

/-- The optional suffix of an integer constant, the alternatives tried in order. -/
def integerSuffix : Pattern :=
  opt (alts [seqs [oneOf "uU", word "ll"], seqs [oneOf "uU", word "LL"],
    seqs [word "ll", opt (oneOf "uU")], seqs [word "LL", opt (oneOf "uU")],
    seqs [oneOf "uU", oneOf "lL"], seqs [oneOf "lL", opt (oneOf "uU")], oneOf "uU"])

/-- A name: a letter, underscore or dollar, then also digits. -/
def identifier : Pattern :=
  .seq (.char fun c => c.isAlpha || c == '_' || c == '$')
    (many (.char fun c => c.isAlphanum || c == '_' || c == '$'))

/-- Hexadecimal digits, at least one. -/
def hexDigits : Pattern := many1 hexDigit

/-- An escape sequence: a backslash, then a letter or sign, digits, or `x` and
hexadecimal digits. -/
def escapeSequence : Pattern :=
  .seq (lit '\\') (alts [
    .char (fun c => c.isAlpha || "._~!=&^-\\?'\"".toList.contains c),
    many1 digitClass,
    .seq (lit 'x') hexDigits])

/-- A backslash followed by a character that begins no escape sequence. -/
def badEscape : Pattern :=
  .seq (lit '\\') (.char fun c =>
    !(c.isAlpha || "._~^!=&-\\?'\"".toList.contains c || ('0' ≤ c && c ≤ '7')))

/-- One character of a character constant. -/
def charItem : Pattern := .alt (noneOf "'\\\n") escapeSequence

/-- One character of a string literal. -/
def stringItem : Pattern := .alt (noneOf "\"\\\n") escapeSequence

/-- A character constant. -/
def charConstant : Pattern := seqs [lit '\'', charItem, lit '\'']

/-- A quote whose constant does not end on its line. -/
def unmatchedQuote : Pattern :=
  .alt (seqs [lit '\'', many charItem, lit '\n'])
    (seqs [lit '\'', many charItem, .anchor .finalEnd])

/-- A character constant with more than one character, none, or a bad escape. -/
def badCharConstant : Pattern :=
  alts [seqs [lit '\'', charItem, many1 (noneOf "'\n"), lit '\''], word "''",
    seqs [lit '\'', badEscape, many (noneOf "'\n"), lit '\'']]

/-- A string literal. -/
def stringLiteral : Pattern := seqs [lit '"', many stringItem, lit '"']

/-- A string literal with a bad escape. -/
def badStringLiteral : Pattern :=
  seqs [lit '"', many stringItem, badEscape, many stringItem, lit '"']

/-- The exponent of a decimal floating constant. -/
def exponent : Pattern := seqs [oneOf "eE", opt (oneOf "-+"), many1 asciiDigit]

/-- A decimal floating constant. -/
def floating : Pattern :=
  let fraction := Pattern.alt (seqs [many asciiDigit, lit '.', many1 asciiDigit])
    (seqs [many1 asciiDigit, lit '.'])
  .seq (.alt (.seq fraction (opt exponent)) (.seq (many1 asciiDigit) exponent)) (opt (oneOf "FfLl"))

/-- A hexadecimal floating constant. -/
def hexFloating : Pattern :=
  let fraction := Pattern.alt (seqs [opt hexDigits, lit '.', hexDigits]) (seqs [hexDigits, lit '.'])
  seqs [lit '0', oneOf "xX", .alt hexDigits fraction,
    seqs [oneOf "pP", opt (oneOf "+-"), many1 asciiDigit], opt (oneOf "FfLl")]

/-- A decimal integer constant. -/
def decimalConstant : Pattern :=
  .alt (.seq (lit '0') integerSuffix) (seqs [range '1' '9', many asciiDigit, integerSuffix])

/-- An octal constant with a digit 8 or 9. -/
def badOctal : Pattern := seqs [lit '0', many (range '0' '7'), oneOf "89"]

/-- What follows the `#` of a line marker. -/
def lineMarker : Pattern :=
  .alt (seqs [many (oneOf " \t"), word "line", nonWordClass])
    (.seq (many (oneOf " \t")) (many1 digitClass))

/-- What follows the `#` of a pragma. -/
def pragmaMarker : Pattern := seqs [many (oneOf " \t"), word "pragma", nonWordClass]

/-- A punctuator, the longest first. -/
def punctuator : Pattern := alts (punctuators.map fun (s, _) => word s)

/-- What is wrong with a match. -/
inductive Fault where
  /-- An octal constant with a digit 8 or 9. -/
  | octal
  /-- A quote without its closing quote. -/
  | unmatched
  /-- A character constant that is not one character. -/
  | charConst
  /-- A bad escape in a string literal. -/
  | escape
  deriving DecidableEq, Repr

/-- The message of a fault of the match `text`. -/
def Fault.message (f : Fault) (text : String) : String :=
  match f with
  | .octal => "Invalid octal constant"
  | .unmatched => "Unmatched '"
  | .charConst => "Invalid char constant " ++ text
  | .escape => "String contains invalid escape code"

/-- What a rule does with its match. -/
inductive Rule where
  /-- Starts a directive. -/
  | hash
  /-- Counts line breaks. -/
  | newlines
  /-- Gives a token of a kind. -/
  | token (kind : Kind)
  /-- Gives a keyword, a type name or a name. -/
  | word
  /-- Gives a punctuator. -/
  | punct
  /-- Reports a fault. -/
  | fault (f : Fault)

/-- The rules of ordinary text, in the order they are tried. -/
def rules : List (Pattern × Rule) :=
  [(lit '#', .hash), (many1 (lit '\n'), .newlines),
   (floating, .token (.floatConst false)), (hexFloating, .token (.floatConst true)),
   (seqs [lit '0', oneOf "xX", hexDigits, integerSuffix], .token (.intConst .hex)),
   (seqs [lit '0', oneOf "bB", many1 (oneOf "01"), integerSuffix], .token (.intConst .binary)),
   (badOctal, .fault .octal),
   (seqs [lit '0', many (range '0' '7'), integerSuffix], .token (.intConst .octal)),
   (decimalConstant, .token (.intConst .decimal)),
   (charConstant, .token (.charConst false)), (.seq (lit 'L') charConstant, .token (.charConst true)),
   (unmatchedQuote, .fault .unmatched), (badCharConstant, .fault .charConst),
   (.seq (lit 'L') stringLiteral, .token (.stringLit true)), (badStringLiteral, .fault .escape),
   (identifier, .word), (stringLiteral, .token (.stringLit false)), (punctuator, .punct)]

/-- The first rule that matches at a position, with the end of its match. -/
def firstRule (input : Array Char) (pos : Nat) : List (Pattern × Rule) → Option (Rule × Nat)
  | [] => none
  | (p, r) :: rest =>
    match p.matchAt input pos with
    | some m => some (r, m.stop)
    | none => firstRule input pos rest

end Lexer

/-- Where the lexer is: in ordinary text, in a line marker (with the number and
file read so far), or in a pragma. -/
inductive LexMode where
  | normal
  | lineMarker (number : Option String) (file : Option String)
  | pragma
  deriving DecidableEq, Repr, Inhabited

/-- The state of a lexer over a source. -/
structure Lexer where
  /-- The source. -/
  input : Array Char
  /-- The offset of the next character to read. -/
  pos : Nat := 0
  /-- The current line. -/
  line : Nat := 1
  /-- What is being read. -/
  mode : LexMode := .normal
  /-- The file, as the last line marker named it. -/
  filename : String := ""
  deriving Inhabited

/-- What the lexer finds next. -/
inductive LexEvent where
  /-- A token. -/
  | token (t : Token)
  /-- A problem, with its line and column; the lexer can go on after it. -/
  | problem (message : String) (line column : Nat)
  /-- The end of the source. -/
  | finished

namespace Lexer

/-- A lexer at the start of a source. -/
def start (source : String) (filename : String := "") : Lexer :=
  { input := source.toList.toArray, filename := filename }

/-- The text from one offset to another. -/
def slice (lx : Lexer) (a b : Nat) : String := String.ofList (lx.input.extract a b).toList

/-- The column of an offset: its distance from the last line break before it,
or one more than the offset on the first line. -/
def column (input : Array Char) (pos : Nat) : Nat :=
  let before := (input.extract 0 pos).toList
  match (before.reverse.findIdx? (· == '\n')) with
  | some k => k + 1
  | none => pos + 1

/-- The characters skipped in each mode. -/
def skips : LexMode → Char → Bool
  | .pragma, c => " \t<>.-\x7b\x7d();=+-*/$%@&^~!?:,0123456789".toList.contains c
  | _, c => c == ' ' || c == '\t'

/-- A problem at an offset. -/
def problemAt (lx : Lexer) (message : String) (pos : Nat) : LexEvent :=
  .problem message lx.line (column lx.input pos)

/-- The value of the number of a line marker: its digits, or a `ValueError`. -/
def markerLine (text : String) : Except Failure Nat :=
  if !text.isEmpty && text.toList.all Char.isDigit then
    .ok (text.toList.foldl (fun n c => 10 * n + (c.toNat - '0'.toNat)) 0)
  else .error (.valueError ("invalid literal for int() with base 10: " ++ Value.strRepr text))

/-- One step in ordinary text at a character that is not skipped: an event, or
`none` to read on from the new state. -/
def stepNormal (lx : Lexer) (isType : String → Bool) : Option LexEvent × Lexer :=
  let pos := lx.pos
  match firstRule lx.input pos rules with
  | none =>
    let c := lx.input.getD pos ' '
    (some (lx.problemAt ("Illegal character " ++ Value.strRepr (String.singleton c)) pos),
      { lx with pos := pos + 1 })
  | some (rule, stop) =>
    let text := lx.slice pos stop
    let emit (k : Kind) : Option LexEvent × Lexer :=
      (some (.token ⟨k, text, lx.line, pos⟩), { lx with pos := stop })
    match rule with
    | .hash =>
      if (lineMarker.matchAt lx.input stop).isSome then
        (none, { lx with pos := stop, mode := .lineMarker none none })
      else if (pragmaMarker.matchAt lx.input stop).isSome then
        (none, { lx with pos := stop, mode := .pragma })
      else emit .hash
    | .newlines => (none, { lx with pos := stop, line := lx.line + (stop - pos) })
    | .token k => emit k
    | .word =>
      let k := Kind.ofWord text
      emit (if k == .identifier && isType text then .typeName else k)
    | .punct => emit (.punct text)
    | .fault f => (some (lx.problemAt (f.message text) pos), { lx with pos := stop + 1 })

/-- One step inside a line marker. -/
def stepMarker (lx : Lexer) (number file : Option String) :
    Except Failure (Option LexEvent × Lexer) :=
  let pos := lx.pos
  match stringLiteral.matchAt lx.input pos with
  | some m =>
    match number with
    | none => .ok (some (lx.problemAt "filename before line number in #line" pos), { lx with pos := m.stop + 1 })
    | some _ =>
      let name := String.ofList (((lx.slice pos m.stop).toList.dropWhile (· == '"')).reverse.dropWhile (· == '"')).reverse
      .ok (none, { lx with pos := m.stop, mode := .lineMarker number (some name) })
  | none =>
  match decimalConstant.matchAt lx.input pos with
  | some m =>
    .ok (none, { lx with pos := m.stop, mode := .lineMarker (number.getD (lx.slice pos m.stop)) file })
  | none =>
  if lx.input[pos]? == some '\n' then
    match number with
    | none => .ok (some (lx.problemAt "line number missing in #line" pos), { lx with pos := pos + 2, mode := .normal })
    | some text => do
      let n ← markerLine text
      return (none, { lx with pos := pos + 1, line := n, mode := .normal, filename := file.getD lx.filename })
  else
  match (word "line").matchAt lx.input pos with
  | some m => .ok (none, { lx with pos := m.stop })
  | none => .ok (some (lx.problemAt "invalid #line directive" pos), { lx with pos := pos + 1 })

/-- One step inside a pragma, which is read to the end of its line. -/
def stepPragma (lx : Lexer) : Option LexEvent × Lexer :=
  let pos := lx.pos
  if lx.input[pos]? == some '\n' then (none, { lx with pos := pos + 1, line := lx.line + 1, mode := .normal })
  else
    match firstRule lx.input pos [(word "pragma", .newlines), (stringLiteral, .newlines), (identifier, .newlines)] with
    | some (_, stop) => (none, { lx with pos := stop })
    | none => (some (lx.problemAt "invalid #pragma directive" pos), { lx with pos := pos + 1 })

/-- Reads on for at most `fuel` steps until something is found. -/
def scan (isType : String → Bool) : Nat → Lexer → Except Failure (LexEvent × Lexer)
  | 0, lx => .ok (.finished, lx)
  | fuel + 1, lx =>
    match lx.input[lx.pos]? with
    | none => .ok (.finished, lx)
    | some c =>
      if skips lx.mode c then scan isType fuel { lx with pos := lx.pos + 1 }
      else do
        let (event, lx') ← match lx.mode with
          | .normal => pure (stepNormal lx isType)
          | .lineMarker number file => stepMarker lx number file
          | .pragma => pure (stepPragma lx)
        match event with
        | some e => return (e, lx')
        | none => scan isType fuel lx'

/-- The next event of the lexer. `isType` tells the names declared as types.
Every step reads at least one character, so the length of the source bounds
the steps. -/
def next (lx : Lexer) (isType : String → Bool) : Except Failure (LexEvent × Lexer) :=
  scan isType (lx.input.size + 1 - lx.pos) lx

/-- A problem that the lexer reported: its message, line and column. -/
structure Problem where
  /-- The message. -/
  message : String
  /-- The line. -/
  line : Nat
  /-- The column. -/
  column : Nat
  deriving Repr

/-- Reads tokens until the end of the source or until `limit` tokens are read,
collecting the problems on the way; `fuel` bounds the events. -/
def collect (isType : String → Bool) (limit : Nat) :
    Nat → Lexer → List Token → List Problem → Except Failure (List Token × List Problem × Lexer)
  | 0, lx, ts, ps => .ok (ts.reverse, ps.reverse, lx)
  | fuel + 1, lx, ts, ps =>
    if ts.length ≥ limit then .ok (ts.reverse, ps.reverse, lx)
    else do
      let (event, lx') ← lx.next isType
      match event with
      | .finished => return (ts.reverse, ps.reverse, lx')
      | .token t => collect isType limit fuel lx' (t :: ts) ps
      | .problem m l c => collect isType limit fuel lx' ts (⟨m, l, c⟩ :: ps)

/-- The tokens and problems of a whole source, at most `limit` tokens, and the
lexer at the end. Every event reads at least one character, so there are fewer
events than characters. -/
def tokenize (source : String) (isType : String → Bool) (limit : Nat) :
    Except Failure (List Token × List Problem × Lexer) :=
  let lx := start source
  collect isType limit (lx.input.size + 2) lx [] []

end Lexer

end Basis.C
