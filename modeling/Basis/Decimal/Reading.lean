/-!
# Reading a decimal float

`readFloat?` reads the text of a float: an optional sign, then `nan`, `inf` or
`infinity` in any case, or decimal digits with an optional point and an
optional exponent, with blanks around it. A single underscore may stand
between two digits. The value is the float nearest to the decimal, ties to
even.
-/

namespace Basis.Decimal

/-- Blanks around a number. -/
def isSpace (c : Char) : Bool :=
  c == ' ' || c == '\t' || c == '\n' || c == '\r' || c.toNat == 11 || c.toNat == 12

/-- Whether a run of digits and underscores has every underscore between two digits. -/
def wellSeparated (cs : List Char) : Bool :=
  cs.head? != some '_' && cs.getLast? != some '_' && !(cs.zip cs.tail).any (fun p => p.1 == '_' && p.2 == '_')

/-- The digits at the front of the input, without the underscores between them,
and the rest; `none` if an underscore is misplaced. -/
def spanDigits (cs : List Char) : Option (List Char × List Char) :=
  let run := cs.takeWhile fun c => c.isDigit || c == '_'
  if wellSeparated run then some (run.filter Char.isDigit, cs.drop run.length) else none

/-- The natural number of a list of digits. -/
def digitsValue (ds : List Char) : Nat :=
  ds.foldl (fun n d => 10 * n + (d.toNat - '0'.toNat)) 0

/-- The float nearest to `m · 10^e`. Exponents far outside the range of floats
give zero or infinity without computing the power. -/
def scaled (m : Nat) (e : Int) : Float :=
  if m = 0 then 0.0
  else
    let lead := e + (Nat.repr m).length
    if lead > 400 then 1.0 / 0.0
    else if lead < -400 then 0.0
    else if e < 0 then Float.ofScientific m true e.natAbs
    else Float.ofScientific m false e.natAbs

/-- Reads an unsigned finite decimal: digits, a point, digits and an exponent,
with at least one digit before or after the point. -/
def readUnsigned (cs : List Char) : Option Float := do
  let (whole, rest) ← spanDigits cs
  let (frac, rest) ← match rest with
    | '.' :: more => spanDigits more
    | _ => some ([], rest)
  if whole.isEmpty && frac.isEmpty then none
  let (expo, rest) ← match rest with
    | e :: more =>
      if e == 'e' || e == 'E' then
        let (neg, more) := match more with
          | '+' :: r => (false, r)
          | '-' :: r => (true, r)
          | r => (false, r)
        let (ds, r) ← spanDigits more
        let n : Int := digitsValue ds
        if ds.isEmpty then none else some (if neg then -n else n, r)
      else some ((0 : Int), e :: more)
    | [] => some ((0 : Int), [])
  if !rest.isEmpty then none
  return scaled (digitsValue (whole ++ frac)) (expo - frac.length)

/-- Reads the text of a float. -/
def readFloat? (text : String) : Option Float :=
  let cs := (text.toList.dropWhile isSpace).reverse.dropWhile isSpace |>.reverse
  let (neg, body) := match cs with
    | '-' :: r => (true, r)
    | '+' :: r => (false, r)
    | r => (false, r)
  let word := String.ofList (body.map Char.toLower)
  let x : Option Float :=
    if word == "nan" then some (0.0 / 0.0)
    else if word == "inf" || word == "infinity" then some (1.0 / 0.0)
    else readUnsigned body
  x.map fun v => if neg then -v else v

end Basis.Decimal
