import Basis.Decimal.Shortest

/-!
# The integral part of a float

`integralPart?` is the integer a finite binary64 value truncates to, toward
zero, exactly for every magnitude: the value is `m · 2^q`, so the integer is
`m · 2^q` when `q ≥ 0` and `m / 2^(-q)` (rounded down) otherwise. NaN and the
infinities have none.
-/

namespace Basis.Decimal

/-- Whether the bits are those of NaN or an infinity. -/
def nonFinite (b : UInt64) : Bool := (b >>> 52) &&& 0x7FF == 0x7FF

/-- The integer a finite float truncates to, toward zero; `none` for NaN and
the infinities. -/
def integralPart? (x : Float) : Option Int :=
  let b := x.toBits
  if nonFinite b then none
  else
    let v := Binary.ofBits b
    let magnitude : Nat := if v.q ≥ 0 then v.m * Nat.pow 2 v.q.toNat else v.m / Nat.pow 2 (-v.q).toNat
    some (if b >>> 63 == 1 then -(magnitude : Int) else magnitude)

end Basis.Decimal
