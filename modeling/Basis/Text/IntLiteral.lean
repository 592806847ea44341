import Basis.Text.Blank
import Basis.Value.Repr

/-!
# Reading integers from text

`readInt s base` reads an integer the way the integer constructor of the
scripting runtime reads a string in a base: blanks around the number, a sign,
then digits of the base, where single underscores may stand between digits. In
bases 2, 8 and 16 the digits may follow the prefix `0b`, `0o` or `0x`, and an
underscore may follow the prefix. Base 0 takes the base from the prefix, ten
without one; a number in base 0 without a prefix may not start with `0` unless
all its digits are `0`.

A text that is not such a number gives `none`; `intLiteralError` is the message
of that failure, with the text quoted and cut to 200 characters.
-/

namespace Basis.Text

/-- The value of a character as a digit of a base up to 36, letters counting from ten. -/
def digitValue (c : Char) : Option Nat :=
  if '0' ≤ c && c ≤ '9' then some (c.toNat - '0'.toNat)
  else if 'a' ≤ c && c ≤ 'z' then some (c.toNat - 'a'.toNat + 10)
  else if 'A' ≤ c && c ≤ 'Z' then some (c.toNat - 'A'.toNat + 10)
  else none

/-- Reads digits of a base, single underscores allowed between two digits;
`afterDigit` tells whether a digit was just read. -/
def readDigits (base : Nat) : List Char → Nat → Bool → Option Nat
  | [], acc, afterDigit => if afterDigit then some acc else none
  | '_' :: rest, acc, afterDigit =>
    if afterDigit then
      match rest with
      | c :: _ => if c == '_' then none else readDigits base rest acc false
      | [] => none
    else none
  | c :: rest, acc, _ =>
    match digitValue c with
    | some d => if d < base then readDigits base rest (acc * base + d) true else none
    | none => none

/-- The base a prefix `0b`, `0o` or `0x` names, with the rest of the text. -/
def basePrefix : List Char → Option (Nat × List Char)
  | '0' :: p :: rest =>
    if p == 'x' || p == 'X' then some (16, rest)
    else if p == 'o' || p == 'O' then some (8, rest)
    else if p == 'b' || p == 'B' then some (2, rest)
    else none
  | _ => none

/-- Reads the digits after a prefix: an underscore may stand right after it. -/
def readAfterPrefix (base : Nat) : List Char → Option Nat
  | '_' :: rest => readDigits base rest 0 false
  | cs => readDigits base cs 0 false

/-- Reads an unsigned number in a base, 0 meaning that the prefix gives the base. -/
def readUnsigned (base : Nat) (cs : List Char) : Option Nat :=
  match basePrefix cs with
  | some (b, rest) =>
    if base == 0 || base == b then readAfterPrefix b rest
    else readDigits base cs 0 false
  | none =>
    if base == 0 then
      match cs with
      | '0' :: _ =>
        if cs.all (fun c => c == '0' || c == '_') then readDigits 10 cs 0 false else none
      | _ => readDigits 10 cs 0 false
    else readDigits base cs 0 false

/-- Reads an integer from text in a base from 2 to 36, or in base 0. -/
def readInt (s : String) (base : Nat) : Option Int :=
  let cs := ((s.toList.dropWhile isBlank).reverse.dropWhile isBlank).reverse
  match cs with
  | '-' :: rest => (readUnsigned base rest).map fun n => -(n : Int)
  | '+' :: rest => (readUnsigned base rest).map fun n => (n : Int)
  | _ => (readUnsigned base cs).map fun n => (n : Int)

/-- The message of a text that is not an integer of a base. -/
def intLiteralError (s : String) (base : Nat) : String :=
  "invalid literal for int() with base " ++ toString base ++ ": " ++
    String.ofList ((Value.strRepr s).toList.take 200)

end Basis.Text
