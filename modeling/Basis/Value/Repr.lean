import Basis.Value.Basic
import Basis.Decimal.Notation
import Basis.Text.Printable

/-!
# Representations of values

`Value.repr` writes a value as the expression that would rebuild it: texts in
quotes with escapes, byte strings with a `b` in front, floats with the fewest
digits that read back, collections in their brackets.

Texts are quoted with single quotes unless they hold a single quote and no
double quote. Inside the quotes a backslash, the quote itself and the
characters that are not printable (`Basis.Text.isPrintable`) are escaped: tab,
newline and carriage return by letter, others by their code in two, four or
eight hexadecimal digits. A byte string escapes every byte outside the
printable ASCII range in two digits.
-/

namespace Basis.Value

/-- Floats in representations: positional for leading exponents from -4 up to
15, otherwise with an exponent of at least two digits and a sign; an integral
value keeps `.0`. -/
def floatNotation : Decimal.Notation where
  plainFrom := -4
  plainBelow := 16
  pointZero := true
  expPlus := true
  expWidth := 2
  nan := "nan"
  inf := "inf"

/-- The parts of complex numbers: like `floatNotation`, without the `.0`. -/
def complexPartNotation : Decimal.Notation := { floatNotation with pointZero := false }

/-- The representation of a float. -/
def floatRepr (x : Float) : String := floatNotation.render x

/-- Hexadecimal digits of a number, lower case, padded with zeros to a width. -/
def hexPadded (width n : Nat) : String :=
  let ds := Nat.toDigits 16 n
  String.ofList (List.replicate (width - ds.length) '0' ++ ds)

/-- The escape of one character of a text inside quotes `q`. -/
def escapeChar (q : Char) (c : Char) : String :=
  if c == q || c == '\\' then "\\" ++ String.singleton c
  else if c == '\t' then "\\t"
  else if c == '\n' then "\\n"
  else if c == '\r' then "\\r"
  else if Text.isPrintable c then String.singleton c
  else
    let n := c.toNat
    if n < 0x100 then "\\x" ++ hexPadded 2 n
    else if n < 0x10000 then "\\u" ++ hexPadded 4 n
    else "\\U" ++ hexPadded 8 n

/-- The quote character of a text: single, unless the text holds a single quote
and no double quote. -/
def quoteOf (cs : List Char) : Char :=
  if cs.contains '\'' && !cs.contains '"' then '"' else '\''

/-- The representation of a text. -/
def strRepr (s : String) : String :=
  let q := quoteOf s.toList
  String.singleton q ++ String.join (s.toList.map (escapeChar q)) ++ String.singleton q

/-- The escape of one byte inside quotes `q`. -/
def escapeByte (q : Char) (b : UInt8) : String :=
  let n := b.toNat
  let c := Char.ofNat n
  if c == q || c == '\\' then "\\" ++ String.singleton c
  else if c == '\t' then "\\t"
  else if c == '\n' then "\\n"
  else if c == '\r' then "\\r"
  else if 0x20 ≤ n ∧ n < 0x7F then String.singleton c
  else "\\x" ++ hexPadded 2 n

/-- The representation of a byte string. -/
def bytesRepr (b : ByteArray) : String :=
  let cs := b.toList.map fun x => Char.ofNat x.toNat
  let q := quoteOf cs
  "b" ++ String.singleton q ++ String.join (b.toList.map (escapeByte q)) ++ String.singleton q

/-- The representation of a complex number: the imaginary part alone when the
real part is a positive zero, otherwise both in parentheses. -/
def complexRepr (re im : Float) : String :=
  let imText := complexPartNotation.render im
  if re == 0.0 && re.toBits >>> 63 == 0 then imText ++ "j"
  else
    let sign := if im.isNaN || im.toBits >>> 63 == 0 then "+" else ""
    "(" ++ complexPartNotation.render re ++ sign ++ imText ++ "j)"

/-- Items joined by a comma and a space. -/
def joinItems (items : List String) : String := ", ".intercalate items

mutual

/-- The representation of a value. -/
def repr : Value → String
  | none => "None"
  | bool b => if b then "True" else "False"
  | int n => toString n
  | float x => floatRepr x
  | str s => strRepr s
  | bytes b => bytesRepr b
  | list items => "[" ++ joinItems (reprList items) ++ "]"
  | tuple items =>
    match reprList items with
    | [one] => "(" ++ one ++ ",)"
    | texts => "(" ++ joinItems texts ++ ")"
  | dict entries => "\x7b" ++ joinItems (reprEntries entries) ++ "\x7d"
  | set items =>
    match reprList items with
    | [] => "set()"
    | texts => "\x7b" ++ joinItems texts ++ "\x7d"
  | frozenset items =>
    match reprList items with
    | [] => "frozenset()"
    | texts => "frozenset(\x7b" ++ joinItems texts ++ "\x7d)"
  | complex re im => complexRepr re im
  | ellipsis => "Ellipsis"
  | cls name => "<class '" ++ name ++ "'>"

/-- The representations of a list of values. -/
def reprList : List Value → List String
  | [] => []
  | v :: rest => repr v :: reprList rest

/-- The representations of the entries of a mapping, key and value joined by a colon. -/
def reprEntries : List (Value × Value) → List String
  | [] => []
  | (k, v) :: rest => (repr k ++ ": " ++ repr v) :: reprEntries rest

end

end Basis.Value
