import Basis.Json.Basic
import Basis.Decimal.Notation

/-!
# Writing JSON text

`Json.render` writes a document on one line. Strings are written in ASCII: every
character outside it is a `\u` escape, as a surrogate pair above the Basic
Multilingual Plane. Numbers with a fraction are written with the fewest digits
that read back.
-/

namespace Basis.Json

/-- Floats in JSON text: positional between `1e-4` and `1e16`, otherwise with an exponent. -/
def floatNotation : Decimal.Notation where
  plainFrom := -4
  plainBelow := 16
  pointZero := true
  expPlus := true
  expWidth := 2
  nan := "NaN"
  inf := "Infinity"

/-- Four lower-case hexadecimal digits. -/
def hex4 (n : Nat) : String :=
  let ds := Nat.toDigits 16 n
  String.ofList (List.replicate (4 - ds.length) '0' ++ ds)

/-- The escape of one character inside a string. -/
def escapeChar (c : Char) : String :=
  match c with
  | '"' => "\\\""
  | '\\' => "\\\\"
  | '\n' => "\\n"
  | '\r' => "\\r"
  | '\t' => "\\t"
  | _ =>
    let n := c.toNat
    if n < 0x20 || n ≥ 0x7F then
      if n ≥ 0x10000 then
        let v := n - 0x10000
        "\\u" ++ hex4 (0xD800 + v / 0x400) ++ "\\u" ++ hex4 (0xDC00 + v % 0x400)
      else "\\u" ++ hex4 n
    else String.singleton c

/-- A string literal. -/
def quote (s : String) : String :=
  s.foldl (fun acc c => acc ++ escapeChar c) "\"" ++ "\""

mutual

/-- The text of a document. -/
def render : Json → String
  | null => "null"
  | bool b => if b then "true" else "false"
  | int n => toString n
  | float x => floatNotation.render x
  | str s => quote s
  | arr items => "[" ++ renderItems items ++ "]"
  | obj members => "\x7b" ++ renderMembers members ++ "\x7d"

/-- The items of an array, separated by commas. -/
def renderItems : List Json → String
  | [] => ""
  | [x] => render x
  | x :: rest => render x ++ ", " ++ renderItems rest

/-- The members of an object, separated by commas. -/
def renderMembers : List (String × Json) → String
  | [] => ""
  | [(k, v)] => quote k ++ ": " ++ render v
  | (k, v) :: rest => quote k ++ ": " ++ render v ++ ", " ++ renderMembers rest

end

mutual

/-- The document with the members of every object sorted by name. -/
def sortKeys : Json → Json
  | arr items => arr (sortItems items)
  | obj members => obj ((sortMembers members).mergeSort fun a b => decide (a.1 ≤ b.1))
  | j => j

/-- The items of an array with their objects sorted. -/
def sortItems : List Json → List Json
  | [] => []
  | x :: rest => sortKeys x :: sortItems rest

/-- The members of an object with their values sorted. -/
def sortMembers : List (String × Json) → List (String × Json)
  | [] => []
  | (k, v) :: rest => (k, sortKeys v) :: sortMembers rest

end

end Basis.Json
