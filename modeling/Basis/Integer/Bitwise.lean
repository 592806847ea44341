/-!
# Bitwise operations on integers

Integers of any size taken as two's-complement bit strings, infinite to the
left: a negative integer `-n - 1` has the bits of `n` inverted and ones
forever after. `land`, `lor` and `lxor` act bit by bit on such strings; each is
computed from the natural-number operations on `n` and the complements.
-/

namespace Basis.Integer

/-- The complement of a negative integer, `-x - 1`, as a natural number. -/
def complementOf (x : Int) : Nat := (-x - 1).toNat

/-- Bitwise and. -/
def land (a b : Int) : Int :=
  match decide (0 ≤ a), decide (0 ≤ b) with
  | true, true => (a.toNat &&& b.toNat : Nat)
  | true, false => (a.toNat ^^^ (a.toNat &&& complementOf b) : Nat)
  | false, true => (b.toNat ^^^ (b.toNat &&& complementOf a) : Nat)
  | false, false => -((complementOf a ||| complementOf b : Nat) : Int) - 1

/-- Bitwise or. -/
def lor (a b : Int) : Int :=
  match decide (0 ≤ a), decide (0 ≤ b) with
  | true, true => (a.toNat ||| b.toNat : Nat)
  | true, false => -((complementOf b ^^^ (complementOf b &&& a.toNat) : Nat) : Int) - 1
  | false, true => -((complementOf a ^^^ (complementOf a &&& b.toNat) : Nat) : Int) - 1
  | false, false => -((complementOf a &&& complementOf b : Nat) : Int) - 1

/-- Bitwise exclusive or. -/
def lxor (a b : Int) : Int :=
  match decide (0 ≤ a), decide (0 ≤ b) with
  | true, true => (a.toNat ^^^ b.toNat : Nat)
  | true, false => -((a.toNat ^^^ complementOf b : Nat) : Int) - 1
  | false, true => -((complementOf a ^^^ b.toNat : Nat) : Int) - 1
  | false, false => (complementOf a ^^^ complementOf b : Nat)

/-- Bitwise complement, `-x - 1`. -/
def lnot (x : Int) : Int := -x - 1

end Basis.Integer
