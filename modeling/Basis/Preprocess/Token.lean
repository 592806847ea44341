import Basis.Text.Blank
import Basis.Text.Digit
import Basis.Text.Alnum

/-!
# Tokens of the preprocessor

The preprocessor cuts text into a few kinds of tokens, trying at each place
these rules in order and taking the first that matches:

* a run of blanks (line breaks included);
* an integer: `0x` or `0X` and hexadecimal digits, or decimal digits, then at
  most one of the letters `u`, `U`, `l`, `L`;
* a string literal `"…"` or a character constant `'…'` (the latter perhaps
  after `L`), ending at the first quote that no backslash escapes, and not
  crossing a line break that no backslash escapes;
* a comment `/* … */`, or `//` up to and including the end of its line;
* a name: an ASCII letter or underscore, then letters, digits and underscores;
* `##`, then `#`;
* any other single character.

A rule that cannot complete (an unterminated string or comment) does not
match, and a later rule takes the place. Every token knows its line, counted
from the line breaks in the tokens before it.
-/

namespace Basis.Preprocess

/-- The kinds of tokens. -/
inductive Kind where
  /-- Blanks, line breaks included. -/
  | space
  /-- A name. -/
  | ident
  /-- An integer. -/
  | integer
  /-- A string literal. -/
  | string
  /-- A character constant. -/
  | char
  /-- A comment. -/
  | comment
  /-- `#`. -/
  | pound
  /-- `##`. -/
  | doublePound
  /-- Any other character. -/
  | other
  deriving DecidableEq, Repr, Inhabited

/-- A token: its kind, its text and the line it is on. -/
structure Token where
  /-- The kind. -/
  kind : Kind
  /-- The text. -/
  text : String
  /-- The line. -/
  line : Nat
  deriving DecidableEq, Repr, Inhabited

namespace Token

/-- Whether a token is blanks. -/
def isSpace (t : Token) : Bool := t.kind == .space

/-- Whether a token is blanks with a line break. -/
def endsLine (t : Token) : Bool := t.kind == .space && t.text.contains '\n'

end Token

/-- The length of a quoted literal's rest after its opening quote, closing
quote included, if it closes before an unescaped line break. -/
def quotedLength (quote : Char) : List Char → Option Nat
  | [] => none
  | c :: rest =>
    if c == quote then some 1
    else if c == '\n' then none
    else if c == '\\' then
      match rest with
      | [] => none
      | _ :: more => (quotedLength quote more).map (· + 2)
    else (quotedLength quote rest).map (· + 1)

/-- The length of a block comment's rest after `/*`, up to and including `*/`. -/
def blockCommentLength : List Char → Option Nat
  | [] => none
  | '*' :: '/' :: _ => some 2
  | _ :: rest => (blockCommentLength rest).map (· + 1)

/-- Whether a character is a hexadecimal digit. -/
def isHexDigit (c : Char) : Bool :=
  ('0' ≤ c && c ≤ '9') || ('a' ≤ c && c ≤ 'f') || ('A' ≤ c && c ≤ 'F')

/-- The length of an integer at the start of a text, if one is there. -/
def integerLength (cs : List Char) : Option Nat :=
  let body : Option Nat :=
    match cs with
    | '0' :: x :: rest =>
      let hex := (rest.takeWhile isHexDigit).length
      if (x == 'x' || x == 'X') && hex > 0 then some (2 + hex)
      else none
    | _ => none
  let body := body.orElse fun _ =>
    let n := (cs.takeWhile Text.isDecimalDigit).length
    if n > 0 then some n else none
  body.map fun n =>
    match cs.drop n with
    | c :: _ => if "uUlL".contains c then n + 1 else n
    | [] => n

/-- The length of a comment at the start of a text, if one is there. -/
def commentLength : List Char → Option Nat
  | '/' :: '*' :: rest =>
    match blockCommentLength rest with
    | some n => some (n + 2)
    | none => none
  | '/' :: '/' :: rest =>
    let n := (rest.takeWhile (· != '\n')).length
    if n < rest.length then some (n + 3) else none
  | _ => none

/-- Whether a character can start a name. -/
def isNameStart (c : Char) : Bool := ('a' ≤ c && c ≤ 'z') || ('A' ≤ c && c ≤ 'Z') || c == '_'

/-- The kind and length of the token at the start of a nonempty text. -/
def tokenAt (cs : List Char) : Kind × Nat :=
  let firstOf : List (Kind × Option Nat) :=
    [(.space, let n := (cs.takeWhile Text.isBlank).length; if n > 0 then some n else none),
     (.integer, integerLength cs),
     (.string, match cs with
       | '"' :: rest => (quotedLength '"' rest).map (· + 1)
       | _ => none),
     (.char, match cs with
       | 'L' :: '\'' :: rest => (quotedLength '\'' rest).map (· + 2)
       | '\'' :: rest => (quotedLength '\'' rest).map (· + 1)
       | _ => none),
     (.comment, commentLength cs),
     (.ident, match cs with
       | c :: rest => if isNameStart c then some (1 + (rest.takeWhile Text.isWordChar).length) else none
       | [] => none),
     (.doublePound, match cs with
       | '#' :: '#' :: _ => some 2
       | _ => none),
     (.pound, match cs with
       | '#' :: _ => some 1
       | _ => none)]
  match firstOf.find? (·.2.isSome) with
  | some (k, some n) => (k, n)
  | _ => (.other, 1)

/-- The number of line breaks in a text. -/
def lineBreaks (s : String) : Nat := (s.toList.filter (· == '\n')).length

/-- The tokens of a text whose first character is on line `line`. -/
def tokenize (cs : List Char) (line : Nat) : List Token :=
  match cs with
  | [] => []
  | c :: more =>
    let (kind, n) := tokenAt (c :: more)
    let n := max n 1
    let text := String.ofList ((c :: more).take n)
    ⟨kind, text, line⟩ :: tokenize ((c :: more).drop n) (line + lineBreaks text)
termination_by cs.length
decreasing_by
  simp only [List.length_drop, List.length_cons]
  omega

/-- The tokens of a text starting on line `line`. -/
def tokensOf (s : String) (line : Nat := 1) : List Token := tokenize s.toList line

/-- A token list without the blanks at its ends. -/
def strip (ts : List Token) : List Token :=
  ((ts.dropWhile Token.isSpace).reverse.dropWhile Token.isSpace).reverse

end Basis.Preprocess
