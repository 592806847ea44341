import Basis.Value.Compare

/-!
# Hash codes and the order of sets

A set keeps its members in the slots of an open-addressed table of `2^k` slots
and is iterated in slot order, so the order of its members follows from their
hash codes and the order in which they were added. This file defines the hash
codes and the table.

Hash codes are signed 64-bit numbers, `-1` excluded:

* an integer is reduced modulo the Mersenne prime `2^61 - 1`, keeping its sign;
  a finite float hashes as the exact rational it is, by the same reduction, so
  numbers that are equal hash alike; the infinities hash to `±314159`;
* a complex number combines the codes of its parts with the factor `1000003`;
* a tuple mixes the codes of its items with the multiply-rotate steps of xxHash;
* a text is hashed by SipHash-1-3 with a zero key over its characters, one, two
  or four little-endian bytes each, by the widest character; a byte string over
  its bytes;
* a frozen set XORs a bit-shuffle of the codes of its members.

`None`, the ellipsis, classes and NaN hash by identity, which no rule fixes;
they get fixed stand-in codes here.

The table (`Slots`) starts with eight slots. A member goes to the slot its code
selects, else to one of the next nine, else the probe jumps by `5i + 1` plus the
higher bits of the code. When more than three fifths of the slots are taken the
table grows to the least power of two above four times the number of members,
and the members move over in slot order.
-/

namespace Basis.Value

/-- The Mersenne prime `2^61 - 1` that reduces numeric hash codes. -/
def hashModulus : Nat := Nat.pow 2 61 - 1

/-- A code of `-1` is replaced by `-2`. -/
def avoidMinusOne (h : Int) : Int := if h = -1 then -2 else h

/-- The hash code of an integer. -/
def hashInt (n : Int) : Int :=
  let r : Int := (n.natAbs % hashModulus : Nat)
  avoidMinusOne (if n < 0 then -r else r)

/-- The hash code of a float. -/
def hashFloat (x : Float) : Int :=
  if x.isNaN then 0
  else if x.isInf then (if x > 0 then 314159 else -314159)
  else
    let b := Decimal.Binary.ofBits x.toBits
    let e : Nat := (b.q % 61).toNat
    let r : Int := (b.m * Nat.pow 2 e % hashModulus : Nat)
    avoidMinusOne (if x.toBits >>> 63 == 1 then -r else r)

/-- A signed code as an unsigned 64-bit word. -/
def toWord (h : Int) : UInt64 := UInt64.ofInt h

/-- An unsigned 64-bit word as a signed code. -/
def ofWord (w : UInt64) : Int := if w.toNat < Nat.pow 2 63 then w.toNat else (w.toNat : Int) - Int.pow 2 64

/-- Rotates a 64-bit word left. -/
def rotl64 (x : UInt64) (n : UInt64) : UInt64 := (x <<< n) ||| (x >>> (64 - n))

/-- One round of SipHash on its four state words. -/
def sipRound (v : UInt64 × UInt64 × UInt64 × UInt64) : UInt64 × UInt64 × UInt64 × UInt64 :=
  let (v0, v1, v2, v3) := v
  let v0 := v0 + v1
  let v2 := v2 + v3
  let v1 := rotl64 v1 13 ^^^ v0
  let v3 := rotl64 v3 16 ^^^ v2
  let v0 := rotl64 v0 32
  let v2 := v2 + v1
  let v0 := v0 + v3
  let v1 := rotl64 v1 17 ^^^ v2
  let v3 := rotl64 v3 21 ^^^ v0
  let v2 := rotl64 v2 32
  (v0, v1, v2, v3)

/-- The little-endian word of up to eight bytes. -/
def wordLE (bs : List UInt8) : UInt64 :=
  bs.foldr (fun b w => (w <<< 8) ||| b.toUInt64) 0

/-- Absorbs the eight-byte words of a message. -/
def sipAbsorb (v : UInt64 × UInt64 × UInt64 × UInt64) : List UInt8 → UInt64 × UInt64 × UInt64 × UInt64 × List UInt8
  | b0 :: b1 :: b2 :: b3 :: b4 :: b5 :: b6 :: b7 :: rest =>
    let m := wordLE [b0, b1, b2, b3, b4, b5, b6, b7]
    let (v0, v1, v2, v3) := sipRound (v.1, v.2.1, v.2.2.1, v.2.2.2 ^^^ m)
    sipAbsorb (v0 ^^^ m, v1, v2, v3) rest
  | rest => (v.1, v.2.1, v.2.2.1, v.2.2.2, rest)

/-- SipHash-1-3 with a zero key: one round per word, three to finish. -/
def siphash13 (msg : List UInt8) : UInt64 :=
  let init : UInt64 × UInt64 × UInt64 × UInt64 :=
    (0x736f6d6570736575, 0x646f72616e646f6d, 0x6c7967656e657261, 0x7465646279746573)
  let (v0, v1, v2, v3, tail) := sipAbsorb init msg
  let last := (msg.length.toUInt64 <<< 56) ||| wordLE tail
  let (v0, v1, v2, v3) := sipRound (v0, v1, v2, v3 ^^^ last)
  let (v0, v1, v2, v3) := sipRound (sipRound (sipRound (v0 ^^^ last, v1, v2 ^^^ 0xff, v3)))
  (v0 ^^^ v1) ^^^ (v2 ^^^ v3)

/-- The hash code of a byte sequence: zero when empty, SipHash otherwise. -/
def hashBytes (bs : List UInt8) : Int :=
  if bs.isEmpty then 0 else avoidMinusOne (ofWord (siphash13 bs))

/-- The bytes over which a text is hashed: each character in as many
little-endian bytes as the widest character of the text needs, one, two or four. -/
def textBytes (s : String) : List UInt8 :=
  let codes := s.toList.map Char.toNat
  let width := if codes.all (· < 0x100) then 1 else if codes.all (· < 0x10000) then 2 else 4
  codes.flatMap fun c => (List.range width).map fun i => (c >>> (8 * i)).toUInt8

/-- The xxHash primes that mix the codes of a tuple. -/
def xxPrime1 : UInt64 := 11400714785074694791
/-- The second mixing prime. -/
def xxPrime2 : UInt64 := 14029467366897019727
/-- The fifth mixing prime, also the starting value. -/
def xxPrime5 : UInt64 := 2870177450012600261

/-- The hash code of a tuple from the codes of its items. -/
def hashTuple (codes : List Int) : Int :=
  let acc := codes.foldl (fun acc h => rotl64 (acc + toWord h * xxPrime2) 31 * xxPrime1) xxPrime5
  let acc := acc + (codes.length.toUInt64 ^^^ (xxPrime5 ^^^ 3527539))
  if acc == 0xFFFFFFFFFFFFFFFF then 1546275796 else ofWord acc

/-- The bit-shuffle of a member's code in the code of a frozen set. -/
def shuffleBits (h : UInt64) : UInt64 := ((h ^^^ (89869747 : UInt64)) ^^^ (h <<< (16 : UInt64))) * 3644798167

/-- The hash code of a frozen set from the codes of its members. -/
def hashFrozen (codes : List Int) : Int :=
  let h := codes.foldl (fun acc c => acc ^^^ shuffleBits (toWord c)) 0
  let h := h ^^^ ((codes.length.toUInt64 + 1) * 1927868237)
  let h := h ^^^ ((h >>> 11) ^^^ (h >>> 25))
  let h := h * 69069 + 907133923
  if h == 0xFFFFFFFFFFFFFFFF then 590923713 else ofWord h

/-- The hash code of a value, or the name of the type that has none. -/
def hashCode (v : Value) : Except String Int :=
  match v with
  | none => .ok 0x5EED0
  | ellipsis => .ok 0x5EED1
  | cls name => .ok (hashBytes (textBytes name) + 0x5EED2)
  | bool b => .ok (if b then 1 else 0)
  | int n => .ok (hashInt n)
  | float x => .ok (hashFloat x)
  | complex re im =>
    let w := toWord (hashFloat re) + 1000003 * toWord (hashFloat im)
    .ok (avoidMinusOne (ofWord w))
  | str s => .ok (hashBytes (textBytes s))
  | bytes b => .ok (hashBytes b.toList)
  | tuple items => do
    let codes ← items.attach.mapM fun ⟨x, _⟩ => hashCode x
    return hashTuple codes
  | frozenset items => do
    let codes ← items.attach.mapM fun ⟨x, _⟩ => hashCode x
    return hashFrozen codes
  | list _ => .error "list"
  | dict _ => .error "dict"
  | set _ => .error "set"
termination_by sizeOf v
decreasing_by
  all_goals
    have := List.sizeOf_lt_of_mem ‹_ ∈ _›
    simp only [tuple.sizeOf_spec, frozenset.sizeOf_spec] at *
    omega

/-- An open-addressed table of set members with their codes. -/
structure Slots where
  /-- The slots, a power of two of them. -/
  slots : Array (Option (Value × UInt64))
  /-- The number of slots taken. -/
  fill : Nat

/-- The number of slots beyond the first that a probe tries in a row. -/
def linearProbes : Nat := 9

namespace Slots

/-- An empty table of eight slots. -/
def empty : Slots := ⟨Array.replicate 8 Option.none, 0⟩

/-- The position of the last slot, one less than their number. -/
def mask (t : Slots) : Nat := t.slots.size - 1

/-- Where a probe for a code goes: the slot of the code, a run of the next
slots, then a jump. `stop` sees each slot tried and says whether to stop there. -/
def probe (t : Slots) (code : UInt64) (stop : Nat → Option (Value × UInt64) → Bool) : Option Nat :=
  go (t.slots.size + 64) (code.toNat &&& t.mask) code.toNat
where
  /-- The search from slot `i` with the remaining perturbation bits. -/
  go : Nat → Nat → Nat → Option Nat
    | 0, _, _ => Option.none
    | fuel + 1, i, perturb =>
      let run := if i + linearProbes ≤ t.mask then linearProbes + 1 else 1
      match (List.range run).find? (fun k => stop (i + k) (t.slots.getD (i + k) Option.none)) with
      | some k => some (i + k)
      | Option.none =>
        let perturb := perturb >>> 5
        go fuel ((i * 5 + 1 + perturb) % Nat.pow 2 64 &&& t.mask) perturb

/-- Puts a member into a free slot without comparing, as when the table grows. -/
def insertClean (t : Slots) (x : Value) (code : UInt64) : Slots :=
  match t.probe code (fun _ e => e.isNone) with
  | some i => { t with slots := t.slots.set! i (some (x, code)), fill := t.fill + 1 }
  | Option.none => t

/-- The members in slot order, with their codes. -/
def entries (t : Slots) : List (Value × UInt64) := t.slots.toList.filterMap id

/-- The table grown for `used` members: the least power of two above `used`,
at least eight slots, with the members moved over in slot order. -/
def resize (t : Slots) (used : Nat) : Slots :=
  let size := (List.range 64).foldl (fun n _ => if n ≤ used then 2 * n else n) 8
  t.entries.foldl (fun acc (x, c) => acc.insertClean x c) ⟨Array.replicate size Option.none, 0⟩

/-- Adds a member unless an equal one is there; grows the table when three
fifths of it are taken. -/
def add (t : Slots) (x : Value) (code : UInt64) : Slots :=
  let found := t.probe code fun _ e => match e with
    | Option.none => true
    | some (y, c) => c == code && equals y x
  match found with
  | some i =>
    match t.slots.getD i Option.none with
    | some _ => t
    | Option.none =>
      let t' : Slots := { slots := t.slots.set! i (some (x, code)), fill := t.fill + 1 }
      if t'.fill * 5 < t.mask * 3 then t' else t'.resize (t'.fill * 4)
  | Option.none => t

end Slots

/-- The members of a set built by adding values in order, in iteration order;
fails with the name of an unhashable type. -/
def setOrder (items : List Value) : Except Failure (List Value) := do
  let t ← items.foldlM (fun t x =>
    match hashCode x with
    | .ok h => .ok (t.add x (toWord h))
    | .error name => .error (unhashableFailure name)) Slots.empty
  return t.entries.map (·.1)

end Basis.Value
