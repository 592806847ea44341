import Basis.Decimal.Shortest

/-!
# Laying out a decimal

`Notation` collects the decisions that turn a selected decimal into text: where
positional notation ends, whether an integral value keeps a `.0`, and how the
exponent is written. `Notation.render` writes a float with them; the digits
themselves come from `Binary.shortest`.
-/

namespace Basis.Decimal

/-- The layout decisions of a float printer. -/
structure Notation where
  /-- The least exponent of the leading digit that is written positionally. -/
  plainFrom : Int
  /-- Leading-digit exponents from here up are written with an exponent. -/
  plainBelow : Int
  /-- An integral value written positionally ends in `.0`. -/
  pointZero : Bool
  /-- A non-negative exponent is written with `+`. -/
  expPlus : Bool
  /-- The least number of digits of the exponent. -/
  expWidth : Nat
  /-- The text of a NaN. -/
  nan : String
  /-- The text of positive infinity; negative infinity has a `-` in front. -/
  inf : String

/-- The decimal digits of a natural number, padded on the left with zeros to a width. -/
def padDigits (width n : Nat) : String :=
  let s := Nat.repr n
  String.ofList (List.replicate (width - s.length) '0') ++ s

/-- Writes a decimal `digits · 10^exp` positionally. -/
def Notation.positional (nt : Notation) (d : Dec) : String :=
  let s := Nat.repr d.digits
  if d.exp ≥ 0 then
    s ++ String.ofList (List.replicate d.exp.toNat '0') ++ (if nt.pointZero then ".0" else "")
  else
    let before : Int := (s.length : Int) + d.exp
    if before > 0 then
      String.ofList (s.toList.take before.toNat) ++ "." ++ String.ofList (s.toList.drop before.toNat)
    else
      "0." ++ String.ofList (List.replicate (-before).toNat '0') ++ s

/-- Writes a decimal with one digit before the point and an exponent. -/
def Notation.scientific (nt : Notation) (d : Dec) : String :=
  let s := Nat.repr d.digits
  let e := d.leadExp
  let mant := match s.toList with
    | c :: rest => if rest.isEmpty then String.singleton c else String.singleton c ++ "." ++ String.ofList rest
    | [] => "0"
  let sign := if e < 0 then "-" else if nt.expPlus then "+" else ""
  mant ++ "e" ++ sign ++ padDigits nt.expWidth e.natAbs

/-- Writes a positive decimal in the notation that its leading exponent calls for. -/
def Notation.layout (nt : Notation) (d : Dec) : String :=
  let e := d.leadExp
  if nt.plainFrom ≤ e ∧ e < nt.plainBelow then nt.positional d else nt.scientific d

/-- Writes a float: its sign, then the shortest decimal that reads back to it,
laid out by the notation. -/
def Notation.render (nt : Notation) (x : Float) : String :=
  if x.isNaN then nt.nan
  else
    let bits := x.toBits
    let negative := bits >>> 63 == 1
    let sign := if negative then "-" else ""
    if x.isInf then sign ++ nt.inf
    else if x == 0.0 then sign ++ nt.positional ⟨0, 0⟩
    else sign ++ nt.layout (Binary.ofBits bits).shortest

end Basis.Decimal
