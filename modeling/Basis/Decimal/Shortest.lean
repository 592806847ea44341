/-!
# The shortest decimal that reads back

A finite binary64 value stands for the interval of reals that round to it. The
decimal chosen for it is the one with the fewest significant digits in that
interval; among two of equal length the nearer one, and on an exact tie the one
with the even last digit.

`Binary.ofBits` decodes the bits into `m · 2^q`; `Binary.readsBack` is the
interval test, by exact comparison of naturals; `Binary.shortest` tries one
digit, two digits, and so on, and on each grid only the two grid points next to
the value, since if any point of a grid lies in the interval one of those two
does.
-/

namespace Basis.Decimal

/-- A finite non-negative binary64 value `m · 2^q`. -/
structure Binary where
  /-- The significand. -/
  m : Nat
  /-- The binary exponent. -/
  q : Int
  /-- The gap to the value below is half the gap to the value above: `m` is a
  power of two at the bottom of a binade that is not the lowest. -/
  narrowBelow : Bool

/-- The significand and exponent of the finite value with these bits; the sign
bit is ignored. NaN and the infinities are no such value: test for them first. -/
def Binary.ofBits (b : UInt64) : Binary :=
  let e := ((b >>> 52) &&& 0x7FF).toNat
  let f := (b &&& 0xFFFFFFFFFFFFF).toNat
  if e == 0 then ⟨f, -1074, false⟩ else ⟨Nat.pow 2 52 + f, (e : Int) - 1075, f == 0 && e > 1⟩

/-- A decimal `digits · 10^exp`. -/
structure Dec where
  /-- The significant digits, as one number. -/
  digits : Nat
  /-- The power of ten of the last digit. -/
  exp : Int
  deriving Repr, DecidableEq, Inhabited

/-- Compares `a · 10^i` with `n · 2^j`, exactly. -/
def cmpScaled (a : Nat) (i : Int) (n : Nat) (j : Int) : Ordering :=
  compare (a * Nat.pow 10 i.toNat * Nat.pow 2 (-j).toNat) (n * Nat.pow 2 j.toNat * Nat.pow 10 (-i).toNat)

/-- Whether `d` lies among the reals that round to `x` under round-to-nearest,
ties to even: between the midpoints to the two neighbours, which belong to the
interval exactly when `m` is even. -/
def Binary.readsBack (x : Binary) (d : Dec) : Bool :=
  let lo := if x.narrowBelow then 4 * x.m - 1 else 4 * x.m - 2
  let hi := 4 * x.m + 2
  let incl := x.m % 2 == 0
  let cl := cmpScaled d.digits d.exp lo (x.q - 2)
  let ch := cmpScaled d.digits d.exp hi (x.q - 2)
  (cl == .gt || (incl && cl == .eq)) && (ch == .lt || (incl && ch == .eq))

/-- `⌊m · 2^q / 10^g⌋`, exactly. -/
def floorOnGrid (m : Nat) (q g : Int) : Nat :=
  (m * Nat.pow 2 q.toNat * Nat.pow 10 (-g).toNat) / (Nat.pow 2 (-q).toNat * Nat.pow 10 g.toNat)

/-- The least `k` with `m · 2^q < 10^k`, for `m > 0`: first an estimate from the
binary length, then exact steps. -/
def Binary.scale (x : Binary) : Int :=
  let est : Int := ((Nat.log2 x.m : Int) + x.q) * 30103 / 100000
  -- `below k` holds when m · 2^q < 10^k.
  let below (k : Int) : Bool := cmpScaled 1 k x.m x.q == .gt
  let up := (List.range 4).foldl (fun k _ => if below k then k else k + 1) est
  (List.range 4).foldl (fun k _ => if below (k - 1) then k - 1 else k) up

/-- Drops trailing zero digits into the exponent. -/
def Dec.trim : Nat → Dec → Dec
  | 0, d => d
  | fuel + 1, d =>
    if d.digits ≠ 0 ∧ d.digits % 10 = 0 then Dec.trim fuel ⟨d.digits / 10, d.exp + 1⟩ else d

/-- Of the two grid points next to `x` on the grid `10^g`, the one that reads back;
of two, the nearer; on a tie, the even one. -/
def Binary.pickOnGrid (x : Binary) (g : Int) : Option Dec :=
  let d := floorOnGrid x.m x.q g
  let lowOk := x.readsBack ⟨d, g⟩
  let highOk := x.readsBack ⟨d + 1, g⟩
  if lowOk && highOk then
    -- compare twice the value with the sum of the two grid points
    match cmpScaled (2 * d + 1) g (2 * x.m) x.q with
    | .gt => some ⟨d, g⟩
    | .lt => some ⟨d + 1, g⟩
    | .eq => if d % 2 == 0 then some ⟨d, g⟩ else some ⟨d + 1, g⟩
  else if lowOk then some ⟨d, g⟩
  else if highOk then some ⟨d + 1, g⟩
  else none

/-- The exact decimal value of `m · 2^q`. -/
def Binary.exact (x : Binary) : Dec :=
  if x.q ≥ 0 then ⟨x.m * Nat.pow 2 x.q.toNat, 0⟩ else ⟨x.m * Nat.pow 5 (-x.q).toNat, x.q⟩

/-- The shortest decimal that reads back to a positive finite value, without
trailing zeros. Seventeen digits always suffice; the exact value stands behind
them as the answer of last resort. -/
def Binary.shortest (x : Binary) : Dec :=
  let k := x.scale
  let found := (List.range 17).findSome? (fun n => x.pickOnGrid (k - (n + 1 : Nat)))
  let d := found.getD x.exact
  Dec.trim 400 d

/-- The number of decimal digits of a natural number, at least one. -/
def digitCount (n : Nat) : Nat := (Nat.toDigits 10 n).length

/-- The decimal exponent of the leading digit of a decimal. -/
def Dec.leadExp (d : Dec) : Int := d.exp + (digitCount d.digits : Int) - 1

example : (Binary.ofBits 0x3FB999999999999A).shortest = ⟨1, -1⟩ := by decide +kernel

end Basis.Decimal
