import Basis.Json.Basic

/-!
# Reading JSON text

`Json.parse?` reads one JSON document from a text, with blanks around it and
nothing else. Besides RFC 8259 it accepts the literals `NaN`, `Infinity` and
`-Infinity` as floating-point numbers, and a member that repeats a name
replaces the value of the first one in its place.

The reader walks the characters once. Nesting is bounded by the length of the
text, which is the fuel of the recursion: every level and every item consumes
at least one character.
-/

namespace Basis.Json

/-- Blanks between tokens. -/
def isBlank (c : Char) : Bool := c == ' ' || c == '\t' || c == '\n' || c == '\r'

/-- The input after the leading blanks. -/
def skipBlanks : List Char → List Char
  | c :: rest => if isBlank c then skipBlanks rest else c :: rest
  | [] => []

/-- The value of a hexadecimal digit. -/
def hexValue? (c : Char) : Option Nat :=
  if '0' ≤ c ∧ c ≤ '9' then some (c.toNat - '0'.toNat)
  else if 'a' ≤ c ∧ c ≤ 'f' then some (c.toNat - 'a'.toNat + 10)
  else if 'A' ≤ c ∧ c ≤ 'F' then some (c.toNat - 'A'.toNat + 10)
  else none

/-- The number written by four hexadecimal digits. -/
def hex4? (a b c d : Char) : Option Nat := do
  let w ← hexValue? a
  let x ← hexValue? b
  let y ← hexValue? c
  let z ← hexValue? d
  return ((w * 16 + x) * 16 + y) * 16 + z

/-- The character of one simple escape, the letter after the backslash. -/
def simpleEscape? : Char → Option Char
  | '"' => some '"'
  | '\\' => some '\\'
  | '/' => some '/'
  | 'b' => some (Char.ofNat 8)
  | 'f' => some (Char.ofNat 12)
  | 'n' => some '\n'
  | 'r' => some '\r'
  | 't' => some '\t'
  | _ => none

/-- Reads the rest of a string after its opening quote, as code points; an
escape `\u` gives its code unit as it is, surrogates included. -/
def readUnits : List Char → Except String (List Nat × List Char)
  | [] => .error "unterminated string"
  | '"' :: rest => .ok ([], rest)
  | '\\' :: 'u' :: a :: b :: c :: d :: rest =>
    match hex4? a b c d with
    | none => .error "bad escape"
    | some u => (readUnits rest).map fun (us, r) => (u :: us, r)
  | '\\' :: e :: rest =>
    match simpleEscape? e with
    | some c => (readUnits rest).map fun (us, r) => (c.toNat :: us, r)
    | none => .error "bad escape"
  | c :: rest =>
    if c.toNat < 0x20 then .error "control character"
    else (readUnits rest).map fun (us, r) => (c.toNat :: us, r)

/-- The characters of a list of code points: a high surrogate followed by a low
one stands for one character above the Basic Multilingual Plane, and a
surrogate that stays alone becomes the replacement character U+FFFD. -/
def joinSurrogates : List Nat → List Char
  | hi :: lo :: rest =>
    if 0xD800 ≤ hi ∧ hi < 0xDC00 ∧ 0xDC00 ≤ lo ∧ lo < 0xE000 then
      Char.ofNat (0x10000 + (hi - 0xD800) * 0x400 + (lo - 0xDC00)) :: joinSurrogates rest
    else unit hi :: joinSurrogates (lo :: rest)
  | [u] => [unit u]
  | [] => []
where
  /-- The character of one code point that has no partner. -/
  unit (u : Nat) : Char := if 0xD800 ≤ u ∧ u < 0xE000 then Char.ofNat 0xFFFD else Char.ofNat u

/-- Reads the rest of a string after its opening quote. -/
def readString (cs : List Char) : Except String (String × List Char) :=
  (readUnits cs).map fun (us, r) => (String.ofList (joinSurrogates us), r)

/-- The leading decimal digits of the input, and the rest. -/
def spanDigits (cs : List Char) : List Char × List Char :=
  (cs.takeWhile Char.isDigit, cs.dropWhile Char.isDigit)

/-- The natural number written by decimal digits. -/
def digitsValue (ds : List Char) : Nat :=
  ds.foldl (fun n d => 10 * n + (d.toNat - '0'.toNat)) 0

/-- Reads a number whose sign has been read already: an integer part without
leading zeros, then an optional fraction and an optional exponent. -/
def readUnsigned (negative : Bool) (cs : List Char) : Except String (Json × List Char) := do
  let (intPart, rest) := spanDigits cs
  match intPart with
  | [] => throw "bad number"
  | d :: tail => if d == '0' && !tail.isEmpty then throw "bad number" else pure ()
  let (frac, rest) ← match rest with
    | '.' :: more =>
      let (f, r) := spanDigits more
      if f.isEmpty then throw "bad number" else pure (some f, r)
    | _ => pure (none, rest)
  let (expo, rest) ← match rest with
    | e :: more =>
      if e == 'e' || e == 'E' then
        let (sgn, more) := match more with
          | '+' :: r => (false, r)
          | '-' :: r => (true, r)
          | r => (false, r)
        let (ds, r) := spanDigits more
        if ds.isEmpty then throw "bad number" else pure (some (sgn, digitsValue ds), r)
      else pure (none, rest)
    | [] => pure (none, rest)
  match frac, expo with
  | none, none =>
    let n : Int := digitsValue intPart
    pure (.int (if negative then -n else n), rest)
  | _, _ =>
    let fracDigits := frac.getD []
    let mantissa := digitsValue (intPart ++ fracDigits)
    let (expNeg, expAbs) := expo.getD (false, 0)
    -- the value is mantissa · 10^(± expAbs − number of fraction digits)
    let e : Int := (if expNeg then -(expAbs : Int) else expAbs) - fracDigits.length
    let x := if e < 0 then Float.ofScientific mantissa true e.natAbs
      else Float.ofScientific mantissa false e.natAbs
    pure (.float (if negative then -x else x), rest)

/-- Adds a member to an object under construction: a repeated name replaces the
earlier value in its place. -/
def addMember (members : List (String × Json)) (k : String) (v : Json) : List (String × Json) :=
  if members.any (·.1 == k) then members.map (fun m => if m.1 == k then (k, v) else m)
  else members ++ [(k, v)]

mutual

/-- Reads one value after optional blanks. -/
def readValue : Nat → List Char → Except String (Json × List Char)
  | 0, _ => .error "nesting too deep"
  | fuel + 1, cs =>
    match skipBlanks cs with
    | '{' :: rest => readMembers fuel [] true rest
    | '[' :: rest => readItems fuel [] true rest
    | '"' :: rest => do
      let (s, r) ← readString rest
      pure (.str s, r)
    | 't' :: 'r' :: 'u' :: 'e' :: rest => .ok (.bool true, rest)
    | 'f' :: 'a' :: 'l' :: 's' :: 'e' :: rest => .ok (.bool false, rest)
    | 'n' :: 'u' :: 'l' :: 'l' :: rest => .ok (.null, rest)
    | 'N' :: 'a' :: 'N' :: rest => .ok (.float (0.0 / 0.0), rest)
    | 'I' :: 'n' :: 'f' :: 'i' :: 'n' :: 'i' :: 't' :: 'y' :: rest => .ok (.float (1.0 / 0.0), rest)
    | '-' :: 'I' :: 'n' :: 'f' :: 'i' :: 'n' :: 'i' :: 't' :: 'y' :: rest =>
      .ok (.float (-1.0 / 0.0), rest)
    | '-' :: rest => readUnsigned true rest
    | cs' => readUnsigned false cs'

/-- Reads the items of an array after its opening bracket. -/
def readItems : Nat → List Json → Bool → List Char → Except String (Json × List Char)
  | 0, _, _, _ => .error "nesting too deep"
  | fuel + 1, acc, first, cs =>
    match skipBlanks cs with
    | ']' :: rest => if first then .ok (.arr acc, rest) else .error "trailing comma"
    | cs' => do
      let (v, r) ← readValue fuel cs'
      match skipBlanks r with
      | ',' :: r' => readItems fuel (acc ++ [v]) false r'
      | ']' :: r' => pure (.arr (acc ++ [v]), r')
      | _ => throw "expected , or ]"

/-- Reads the members of an object after its opening brace. -/
def readMembers : Nat → List (String × Json) → Bool → List Char → Except String (Json × List Char)
  | 0, _, _, _ => .error "nesting too deep"
  | fuel + 1, acc, first, cs =>
    match skipBlanks cs with
    | '}' :: rest => if first then .ok (.obj acc, rest) else .error "trailing comma"
    | '"' :: rest => do
      let (k, r) ← readString rest
      match skipBlanks r with
      | ':' :: r' => do
        let (v, r'') ← readValue fuel r'
        match skipBlanks r'' with
        | ',' :: r3 => readMembers fuel (addMember acc k v) false r3
        | '}' :: r3 => pure (.obj (addMember acc k v), r3)
        | _ => throw "expected , or \x7d"
      | _ => throw "expected :"
    | _ => .error "expected a name"

end

/-- Reads a text that holds exactly one JSON document. -/
def parse? (text : String) : Option Json :=
  let cs := text.toList
  match readValue (cs.length + 2) cs with
  | .ok (v, rest) => if (skipBlanks rest).isEmpty then some v else none
  | .error _ => none

end Basis.Json
