import Basis.Text.Alnum
import Basis.Text.Digit
import Basis.Decimal.Reading

/-!
# Words of a condition

A condition, once its macros are replaced, is read as an expression of a
small scripting syntax: integers (decimal, `0x` hexadecimal, `0o` octal,
`0b` binary), floats with a point or an exponent, quoted texts, names,
operators and brackets. Blanks are spaces, tabs and form feeds; `#` starts a
comment that runs to the end of its line; a backslash before a line break
joins the two lines. A line break inside brackets is a blank, and outside
them ends a line.

`Lexeme.scan` fails on anything else: a decimal integer with a leading zero,
a number followed directly by a letter (unless by one of a few keywords), an
unterminated text, an unknown escape of a code, a character that is no part
of the syntax, a closing bracket without its opening one.
-/

namespace Basis.Preprocess.Condition

/-- The words of a condition. -/
inductive Lexeme where
  /-- An integer. -/
  | int (n : Int)
  /-- A float. -/
  | float (x : Float)
  /-- A text, its escapes resolved. -/
  | text (s : String)
  /-- A name. -/
  | name (s : String)
  /-- An operator or a bracket. -/
  | symbol (s : String)
  /-- The end of a line outside brackets. -/
  | newline
  deriving Inhabited

/-- The operators, longest first. -/
def symbols : List String :=
  ["**=", "//=", "<<=", ">>=", "...",
   "**", "//", "<<", ">>", "<=", ">=", "==", "!=", "<>", "->", ":=",
   "+=", "-=", "*=", "/=", "%=", "&=", "|=", "^=", "@=",
   "+", "-", "*", "/", "%", "@", "&", "|", "^", "~", "<", ">",
   "(", ")", "[", "]", "\x7b", "\x7d", ",", ":", ".", ";", "="]

/-- Whether a character is an ASCII letter or digit or an underscore. -/
def isAsciiWord (c : Char) : Bool :=
  ('a' ≤ c && c ≤ 'z') || ('A' ≤ c && c ≤ 'Z') || ('0' ≤ c && c ≤ '9') || c == '_'

/-- Whether a character may be part of a name's candidate: an ASCII letter,
digit or underscore, or any character beyond ASCII. -/
def isNameCandidate (c : Char) : Bool := isAsciiWord c || c.toNat ≥ 128

/-- Whether a candidate is a name: a letter or underscore, then letters,
digits and underscores. -/
def isName : List Char → Bool
  | [] => false
  | c :: rest =>
    let start := if c.toNat < 128 then isAsciiWord c && !('0' ≤ c && c ≤ '9')
      else Text.isWordChar c && !Text.isDecimalDigit c
    start && rest.all fun d => if d.toNat < 128 then isAsciiWord d else Text.isWordChar d

/-- The keywords that may follow a number directly. -/
def numberFollowers : List String := ["and", "else", "for", "if", "in", "is", "not", "or"]

/-- Whether the text after a number ends it properly: not with a letter,
digit or underscore, unless with a keyword allowed there. -/
def endsNumber (rest : List Char) : Bool :=
  match rest with
  | c :: _ =>
    !isNameCandidate c || numberFollowers.any fun k => k.toList.isPrefixOf rest
  | [] => true

/-- The digits at the front of a text in a base, single underscores allowed
between them, and the length they take; `none` if an underscore is
misplaced. -/
def spanDigitsIn (ok : Char → Bool) (cs : List Char) : Option (List Char × Nat) :=
  let run := cs.takeWhile fun c => ok c || c == '_'
  let digits := run.filter (· != '_')
  if run.head? == some '_' || run.getLast? == some '_' ||
      (run.zip run.tail).any (fun p => p.1 == '_' && p.2 == '_') then none
  else some (digits, run.length)

/-- The value of a digit in base 16 or less. -/
def digitValue (c : Char) : Nat :=
  if '0' ≤ c && c ≤ '9' then c.toNat - '0'.toNat
  else if 'a' ≤ c && c ≤ 'f' then c.toNat - 'a'.toNat + 10
  else c.toNat - 'A'.toNat + 10

/-- The number of digits in a base. -/
def digitsIn (base : Nat) (ds : List Char) : Nat :=
  ds.foldl (fun n d => base * n + digitValue d) 0

/-- A number at the front of a text: the lexeme and the length it takes. -/
def scanNumber (cs : List Char) : Option (Lexeme × Nat) :=
  match cs with
  | '0' :: p :: rest =>
    let base? : Option (Nat × (Char → Bool)) :=
      if p == 'x' || p == 'X' then some (16, fun c => ('0' ≤ c && c ≤ '9') || ('a' ≤ c && c ≤ 'f') || ('A' ≤ c && c ≤ 'F'))
      else if p == 'o' || p == 'O' then some (8, fun c => '0' ≤ c && c ≤ '7')
      else if p == 'b' || p == 'B' then some (2, fun c => c == '0' || c == '1')
      else none
    match base? with
    | some (base, ok) =>
      -- an underscore may also stand right after the prefix
      let (skip, body) := match rest with
        | '_' :: more => (1, more)
        | more => (0, more)
      match spanDigitsIn ok body with
      | some (ds, n) =>
        if ds.isEmpty || !endsNumber (body.drop n) then none
        else some (.int (digitsIn base ds), 2 + skip + n)
      | none => none
    | none => decimal
  | _ => decimal
where
  /-- A decimal integer or float. -/
  decimal : Option (Lexeme × Nat) := do
    let isDigit := fun c : Char => '0' ≤ c && c ≤ '9'
    let (whole, n1) ← spanDigitsIn isDigit cs
    let afterWhole := cs.drop n1
    let (frac, n2, pointed) ← match afterWhole with
      | '.' :: more =>
        match spanDigitsIn isDigit more with
        | some (ds, n) => some (ds, n + 1, true)
        | none => none
      | _ => some ([], 0, false)
    if whole.isEmpty && frac.isEmpty then none
    let afterFrac := afterWhole.drop n2
    -- an `e` with no digit after it is no exponent, and may start a keyword
    let (n3, exponent) ← match afterFrac with
      | e :: s :: body =>
        if e == 'e' || e == 'E' then
          if s == '+' || s == '-' || isDigit s then
            let (sign, body) := if isDigit s then (0, s :: body) else (1, body)
            match spanDigitsIn isDigit body with
            | some (ds, n) => if ds.isEmpty then none else some (1 + sign + n, true)
            | none => none
          else some (0, false)
        else some (0, false)
      | _ => some (0, false)
    let total := n1 + n2 + n3
    if !endsNumber (cs.drop total) then none
    if pointed || exponent then
      let x ← Decimal.readFloat? (String.ofList (cs.take total))
      return (.float x, total)
    -- a decimal integer: zeros only after a leading zero
    if whole.head? == some '0' && whole.any (· != '0') then none
    return (.int (digitsIn 10 whole), total)

/-- The code of a run of hexadecimal digits of exactly `n` characters. -/
def hexCode (n : Nat) (cs : List Char) : Option Nat :=
  let ds := cs.take n
  if ds.length == n && ds.all (fun c => ('0' ≤ c && c ≤ '9') || ('a' ≤ c && c ≤ 'f') || ('A' ≤ c && c ≤ 'F'))
  then some (digitsIn 16 ds) else none

/-- A character of a code, if it is one. -/
def charOfCode (n : Nat) : Option Char :=
  if n.isValidChar then some (Char.ofNat n) else none

/-- The characters of a quoted text's body with escapes resolved, the body
ending before the closing quote. -/
def unescape (cs : List Char) : Option (List Char) :=
  match cs with
  | [] => some []
  | '\\' :: rest =>
    match rest with
    | [] => none
    | e :: more =>
      let simple : Option Char :=
        match e with
        | '\\' => some '\\' | '\'' => some '\'' | '"' => some '"'
        | 'a' => some '\x07' | 'b' => some '\x08' | 'f' => some '\x0c'
        | 'n' => some '\n' | 'r' => some '\r' | 't' => some '\t' | 'v' => some '\x0b'
        | _ => none
      match simple with
      | some c => (unescape more).map (c :: ·)
      | none =>
        if e == '\n' then unescape more
        else if '0' ≤ e && e ≤ '7' then
          let ds := (e :: more.take 2).takeWhile fun c => '0' ≤ c && c ≤ '7'
          match charOfCode (digitsIn 8 ds) with
          | some c => (unescape (more.drop (ds.length - 1))).map (c :: ·)
          | none => none
        else if e == 'x' || e == 'u' || e == 'U' then
          let width := if e == 'x' then 2 else if e == 'u' then 4 else 8
          match (hexCode width more).bind charOfCode with
          | some c => (unescape (more.drop width)).map (c :: ·)
          | none => none
        else if e == 'N' then none
        else (unescape more).map (['\\', e] ++ ·)
  | c :: rest => (unescape rest).map (c :: ·)
termination_by cs.length
decreasing_by
  all_goals simp only [List.length_drop, List.length_cons]
  all_goals omega

/-- The length of a quoted text's body after its opening quotes, up to the
closing ones: `quote` repeated `width` times. A single-quoted text ends at
no line break that no backslash escapes. -/
def bodyLength (quote : Char) (width : Nat) : List Char → Option Nat
  | [] => none
  | c :: rest =>
    if c == quote && (c :: rest).take width == List.replicate width quote then some 0
    else if c == '\n' && width == 1 then none
    else if c == '\\' then
      match rest with
      | [] => none
      | _ :: more => (bodyLength quote width more).map (· + 2)
    else (bodyLength quote width rest).map (· + 1)

/-- A quoted text at the front of a text: the lexeme and the length it takes. -/
def scanText (cs : List Char) : Option (Lexeme × Nat) :=
  match cs with
  | q :: rest =>
    let width := if rest.take 2 == [q, q] then 3 else 1
    let body := rest.drop (width - 1)
    match bodyLength q width body with
    | some n =>
      match unescape (body.take n) with
      | some chars => some (.text (String.ofList chars), 1 + (width - 1) + n + width)
      | none => none
    | none => none
  | [] => none

/-- What the front of a text holds: a lexeme and the length it takes, a
stretch to skip (blanks, a comment, a joined line break), or a line break. -/
inductive Step where
  /-- A lexeme. -/
  | word (l : Lexeme) (length : Nat)
  /-- A stretch to skip. -/
  | skip (length : Nat)
  /-- A line break. -/
  | lineBreak
  deriving Inhabited

/-- The step at the front of a nonempty text. -/
def stepAt (cs : List Char) : Option Step :=
  match cs with
  | [] => none
  | c :: rest =>
    if c == ' ' || c == '\t' || c == '\x0c' then some (.skip 1)
    else if c == '#' then some (.skip (1 + (rest.takeWhile (· != '\n')).length))
    else if c == '\\' then
      match rest with
      | '\n' :: _ => some (.skip 2)
      | _ => none
    else if c == '\n' then some .lineBreak
    else if ('0' ≤ c && c ≤ '9') || (c == '.' && (rest.head?.map (fun d => '0' ≤ d && d ≤ '9')).getD false) then
      (scanNumber cs).map fun (l, n) => .word l n
    else if c == '"' || c == '\'' then (scanText cs).map fun (l, n) => .word l n
    else if isNameCandidate c then
      let run := cs.takeWhile isNameCandidate
      if isName run then some (.word (.name (String.ofList run)) run.length) else none
    else
      (symbols.find? fun s => s.toList.isPrefixOf cs).map fun s => .word (.symbol s) s.length

/-- The change of bracket depth a lexeme makes. -/
def depthChange : Lexeme → Int
  | .symbol "(" | .symbol "[" | .symbol "\x7b" => 1
  | .symbol ")" | .symbol "]" | .symbol "\x7d" => -1
  | _ => 0

/-- The lexemes of a text at bracket depth `depth`. -/
def scanFrom (cs : List Char) (depth : Nat) : Option (List Lexeme) :=
  match cs with
  | [] => some []
  | c :: more =>
    match stepAt (c :: more) with
    | none => none
    | some step =>
      let (taken, out, depth') : Nat × Option Lexeme × Int := match step with
        | .word l n => (n, some l, depth + depthChange l)
        | .skip n => (n, none, depth)
        | .lineBreak => (1, if depth == 0 then some .newline else none, depth)
      if depth' < 0 then none
      else
        match scanFrom ((c :: more).drop (max taken 1)) depth'.toNat with
        | some ls => some (match out with | some l => l :: ls | none => ls)
        | none => none
termination_by cs.length
decreasing_by
  simp only [List.length_drop, List.length_cons]
  omega

/-- The lexemes of a condition's text; `none` if it breaks the syntax. A
text with a null character is refused whole. -/
def Lexeme.scan (s : String) : Option (List Lexeme) :=
  if s.contains '\x00' then none
  else
    -- leading spaces and tabs are dropped before reading
    scanFrom (s.toList.dropWhile fun c => c == ' ' || c == '\t') 0

end Basis.Preprocess.Condition
