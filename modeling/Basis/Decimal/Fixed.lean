import Basis.Decimal.Shortest

/-!
# Rounding a float to decimal places

`Binary.scaledRound x k` is the integer nearest to `x · 10^k`, exactly: the
value `m · 2^q · 10^k` is a fraction of naturals, rounded to the nearest
integer with ties to the even one (`roundHalfEven`). Fixed-point text with `k`
places and exponent text with `k + 1` significant digits both come from it;
`Binary.leadExponent` finds the power of ten of the leading digit of the
rounded value.
-/

namespace Basis.Decimal

/-- The natural number nearest to `num / den`, a tie going to the even one. -/
def roundHalfEven (num den : Nat) : Nat :=
  let q := num / den
  let r := num % den
  if 2 * r > den then q + 1
  else if 2 * r < den then q
  else if q % 2 == 0 then q else q + 1

/-- The integer nearest to `x · 10^k`, ties to even. -/
def Binary.scaledRound (x : Binary) (k : Int) : Nat :=
  let num := x.m * Nat.pow 2 x.q.toNat * Nat.pow 10 k.toNat
  let den := Nat.pow 2 (-x.q).toNat * Nat.pow 10 (-k).toNat
  roundHalfEven num den

/-- A first guess of the power of ten of the leading digit of a non-zero value. -/
def Binary.guessExponent (x : Binary) : Int :=
  ((Nat.log2 x.m : Int) + x.q) * 30103 / 100000

/-- The power of ten `e` of the leading digit of a non-zero value rounded to
`digits + 1` significant digits, and the rounded digits `N`, with
`10^digits ≤ N < 10^(digits + 1)`. -/
def Binary.leadExponent (x : Binary) (digits : Nat) : Int × Nat :=
  let rec go : Nat → Int → Int × Nat
    | 0, e => (e, x.scaledRound ((digits : Int) - e))
    | fuel + 1, e =>
      let n := x.scaledRound ((digits : Int) - e)
      if n ≥ Nat.pow 10 (digits + 1) then go fuel (e + 1)
      else if n < Nat.pow 10 digits then go fuel (e - 1)
      else (e, n)
  go 8 x.guessExponent

end Basis.Decimal
