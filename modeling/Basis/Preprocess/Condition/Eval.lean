import Basis.Preprocess.Condition.Expr
import Basis.Value.Compare
import Basis.Integer.Bitwise

/-!
# Values of a condition

`Expr.eval` computes the value of a condition's expression, or nothing when
the computation fails: dividing by zero, a negative shift, mixing a text with
a number, ordering values that have no order, an index out of range, a name,
a call. A condition that fails to compute is an error of its own, whatever
the cause, so one failure stands for all.

Integers have any size; `/` divides to the float nearest the exact quotient;
`//` and `%` round the quotient down, so a remainder has the divisor's sign;
`**` with a negative exponent gives a float. Integers mix with floats by
value, and compare with them exactly. `and` and `or` give one of their
operands and evaluate the second only when the first does not decide. Texts,
lists and tuples join with `+`, repeat with `*` and compare item by item;
sets compare by inclusion.

Results too large to hold (an integer of more than `bitLimit` bits, a
repetition of more than `lengthLimit` items) fail as well.
-/

namespace Basis.Preprocess.Condition

open Basis (Value)

/-- The largest number of bits of an integer a condition computes. -/
def bitLimit : Nat := Nat.pow 2 24

/-- The largest length of a text or sequence a condition builds by repetition. -/
def lengthLimit : Nat := Nat.pow 2 22

namespace Arith

/-- The integer a truth value or integer stands for. -/
def intOf? : Value → Option Int
  | .bool b => some (if b then 1 else 0)
  | .int n => some n
  | _ => none

/-- The float of an integer, failing when it is too large for one. -/
def floatOfInt? (n : Int) : Option Float :=
  let x := Float.ofInt n
  if x.isInf then none else some x

/-- The float a truth value, integer or float stands for. -/
def floatOf? (v : Value) : Option Float :=
  match v with
  | .float x => some x
  | _ => (intOf? v).bind floatOfInt?

/-- Whether a value is a float. -/
def isFloat : Value → Bool
  | .float _ => true
  | _ => false

/-- Whether a float is negative, including `-0.0`. -/
def signBit (x : Float) : Bool := x.toBits >>> 63 == 1

/-- The float with the magnitude of `x` and the sign of `y`. -/
def copySign (x y : Float) : Float :=
  let mag := x.abs
  if signBit y then -mag else mag

/-- The remainder of `x` by `y` that has the sign of `x`, computed exactly. -/
def fmod (x y : Float) : Float :=
  if x.isNaN || y.isNaN || x.isInf || y == 0.0 then 0.0 / 0.0
  else if y.isInf then x
  else
    let a := Decimal.Binary.ofBits x.toBits
    let b := Decimal.Binary.ofBits y.toBits
    let e := min a.q b.q
    let num := a.m * Nat.pow 2 (a.q - e).toNat
    let den := b.m * Nat.pow 2 (b.q - e).toNat
    let r := (Float.ofNat (num % den)).scaleB e
    if signBit x then -r else r

/-- The quotient rounded down and the remainder of two floats, the divisor
not zero. -/
def floatDivMod (x y : Float) : Float × Float :=
  let m := fmod x y
  let d := (x - m) / y
  let (m, d) :=
    if m != 0.0 then
      if (y < 0.0) != (m < 0.0) then (m + y, d - 1.0) else (m, d)
    else (copySign 0.0 y, d)
  let q :=
    if d != 0.0 then
      let f := d.floor
      if d - f > 0.5 then f + 1.0 else f
    else copySign 0.0 (x / y)
  (q, m)

/-- The float nearest to `a / b`, the divisor not zero; nothing when it is
too large for a float. -/
def trueDivide (a b : Int) : Option Float :=
  let n := a.natAbs
  let d := b.natAbs
  let negative := (a < 0) != (b < 0)
  if n ≤ Nat.pow 2 53 && d ≤ Nat.pow 2 53 then some (Float.ofInt a / Float.ofInt b)
  else
    -- a quotient of 64 or 65 bits, the bits below it kept as one sticky bit
    let k : Int := 64 + (Nat.log2 d : Int) - (Nat.log2 n : Int)
    let num := n * Nat.pow 2 k.toNat
    let den := d * Nat.pow 2 (-k).toNat
    let q := num / den
    let sticky := if num % den == 0 then 0 else 1
    let (q, k) := if q ≥ Nat.pow 2 64 then (q / 2 ||| (q % 2) ||| sticky, k - 1) else (q ||| sticky, k)
    let x := (q.toUInt64.toFloat).scaleB (-k)
    if x.isInf then none else some (if negative then -x else x)

/-- The power of two floats, with the special cases of zero, one, infinities
and NaN; nothing on a negative power of zero or an overflow. A negative base
to a fractional power gives a complex number. -/
def floatPow (v w : Float) : Option Value :=
  let isOddInt (x : Float) : Bool :=
    !x.isInf && x.floor == x && fmod x 2.0 != 0.0
  if w == 0.0 then some (.float 1.0)
  else if v.isNaN then some (.float v)
  else if w.isNaN then some (.float (if v == 1.0 then 1.0 else w))
  else if w.isInf then
    let a := v.abs
    if a == 1.0 then some (.float 1.0)
    else if (w > 0.0) == (a > 1.0) then some (.float w.abs)
    else some (.float 0.0)
  else if v.isInf then
    if w > 0.0 then some (.float (if isOddInt w then v else v.abs))
    else some (.float (if isOddInt w then copySign 0.0 v else 0.0))
  else if v == 0.0 then
    if w < 0.0 then none else some (.float (if isOddInt w then v else 0.0))
  else if v < 0.0 && w.floor != w then
    -- in polar form: the modulus to the power, the angle of a half turn times it
    let len := Float.pow v.abs w
    let phase := 3.141592653589793 * w
    some (.complex (len * phase.cos) (len * phase.sin))
  else
    let negate := v < 0.0 && isOddInt w
    let a := v.abs
    if a == 1.0 then some (.float (if negate then -1.0 else 1.0))
    else
      let r := Float.pow a w
      if r.isInf then none else some (.float (if negate then -r else r))

/-- An integer to a non-negative integer power, within the size limit. -/
def intPow (a : Int) (e : Nat) : Option Int :=
  if a == 0 then some (if e == 0 then 1 else 0)
  else if a == 1 then some 1
  else if a == -1 then some (if e % 2 == 0 then 1 else -1)
  else if e * (Nat.log2 a.natAbs + 1) > bitLimit then none
  else some (Int.pow a e)

/-- A sequence repeated `n` times, within the size limit. -/
def repeatList {α : Type} (xs : List α) (n : Int) : Option (List α) :=
  if n ≤ 0 then some []
  else if xs.length * n.toNat > lengthLimit then none
  else some (List.flatten (List.replicate n.toNat xs))

/-- A text repeated `n` times, within the size limit. -/
def repeatText (s : String) (n : Int) : Option String :=
  (repeatList s.toList n).map String.ofList

/-- Applies an arithmetic operator to two numbers. -/
def numeric (op : BinOp) (a b : Value) : Option Value :=
  match intOf? a, intOf? b with
  | some x, some y =>
    match op with
    | .add => some (.int (x + y))
    | .sub => some (.int (x - y))
    | .mul =>
      if (Nat.log2 x.natAbs + 1) + (Nat.log2 y.natAbs + 1) > bitLimit then none
      else some (.int (x * y))
    | .div => if y == 0 then none else (trueDivide x y).map .float
    | .floorDiv => if y == 0 then none else some (.int (x.fdiv y))
    | .mod => if y == 0 then none else some (.int (x.fmod y))
    | .pow =>
      if y ≥ 0 then (intPow x y.toNat).map .int
      else do floatPow (← floatOfInt? x) (← floatOfInt? y)
    | .shiftLeft =>
      if y < 0 then none
      else if x == 0 then some (.int 0)
      else if y.toNat + Nat.log2 x.natAbs + 1 > bitLimit then none
      else some (.int (x * Int.pow 2 y.toNat))
    | .shiftRight =>
      if y < 0 then none
      else if y.toNat > Nat.log2 x.natAbs + 1 then some (.int (if x < 0 then -1 else 0))
      else some (.int (x.fdiv (Int.pow 2 y.toNat)))
    | .bitAnd => some (.int (Integer.land x y))
    | .bitOr => some (.int (Integer.lor x y))
    | .bitXor => some (.int (Integer.lxor x y))
    | .matMul => none
  | _, _ =>
    if !(isFloat a || isFloat b) then none
    else do
      let x ← floatOf? a
      let y ← floatOf? b
      match op with
      | .add => some (.float (x + y))
      | .sub => some (.float (x - y))
      | .mul => some (.float (x * y))
      | .div => if y == 0.0 then none else some (.float (x / y))
      | .floorDiv => if y == 0.0 then none else some (.float (floatDivMod x y).1)
      | .mod => if y == 0.0 then none else some (.float (floatDivMod x y).2)
      | .pow => floatPow x y
      | _ => none

/-- Applies a binary operator to two values. -/
def binary (op : BinOp) (a b : Value) : Option Value :=
  match op, a, b with
  | .add, .str s, .str t => some (.str (s ++ t))
  | .add, .list xs, .list ys => some (.list (xs ++ ys))
  | .add, .tuple xs, .tuple ys => some (.tuple (xs ++ ys))
  | .mul, .str s, n | .mul, n, .str s => (intOf? n).bind fun k => (repeatText s k).map .str
  | .mul, .list xs, n | .mul, n, .list xs => (intOf? n).bind fun k => (repeatList xs k).map .list
  | .mul, .tuple xs, n | .mul, n, .tuple xs => (intOf? n).bind fun k => (repeatList xs k).map .tuple
  | _, _, _ => numeric op a b

/-- Applies a sign. -/
def unary (op : UnaryOp) (v : Value) : Option Value :=
  match op, v with
  | .neg, .float x => some (.float (-x))
  | .pos, .float x => some (.float x)
  | .invert, .float _ => none
  | op, v =>
    (intOf? v).map fun n =>
      match op with
      | .neg => .int (-n)
      | .pos => .int n
      | .invert => .int (Integer.lnot n)

end Arith

namespace Order

/-- Whether an ordering satisfies an order comparison. -/
def holds (op : CompareOp) (o : Ordering) : Bool :=
  match op with
  | .lt => o == .lt
  | .le => o != .gt
  | .gt => o == .gt
  | .ge => o != .lt
  | .eq => o == .eq
  | .ne => o != .eq

/-- Whether a value is a number of some kind. -/
def isNumber : Value → Bool
  | .bool _ | .int _ | .float _ | .complex _ _ => true
  | _ => false

/-- Whether every member of `xs` is among `ys`. -/
def included (xs ys : List Value) : Bool := xs.all fun x => ys.any (Value.equals x)

/-- Compares two values, within `fuel` levels of nesting; nothing when the
two have no order. -/
def compare : Nat → CompareOp → Value → Value → Option Bool
  | _, .eq, a, b => some (Value.equals a b)
  | _, .ne, a, b => some (!Value.equals a b)
  | 0, _, _, _ => none
  | fuel + 1, op, a, b =>
    match a, b with
    | .str s, .str t => some (holds op (Ord.compare s t))
    | .list xs, .list ys | .tuple xs, .tuple ys => items fuel op xs ys
    | .set xs, .set ys | .set xs, .frozenset ys | .frozenset xs, .set ys
    | .frozenset xs, .frozenset ys =>
      match op with
      | .lt => some (included xs ys && xs.length < ys.length)
      | .le => some (included xs ys)
      | .gt => some (included ys xs && ys.length < xs.length)
      | _ => some (included ys xs)
    | a, b =>
      if isNumber a && isNumber b && !a.isComplex && !b.isComplex then
        -- a NaN makes every order comparison false
        some ((Value.compareReal? a b).map (holds op) |>.getD false)
      else none
where
  /-- Compares two sequences at their first unequal items, or by length. -/
  items (fuel : Nat) (op : CompareOp) : List Value → List Value → Option Bool
    | x :: xs, y :: ys =>
      if Value.equals x y then items fuel op xs ys else compare fuel op x y
    | xs, ys => some (holds op (Ord.compare xs.length ys.length))

end Order

namespace Subscript

/-- The position an index names in a sequence of `length` items, counting
from the end when negative. -/
def position (length : Nat) (i : Int) : Option Nat :=
  let j := if i < 0 then i + length else i
  if 0 ≤ j && j < length then some j.toNat else none

/-- The positions a slice takes from a sequence of `length` items. -/
def slicePositions (length : Nat) (lo hi step : Value) : Option (List Nat) := do
  let bound : Value → Option (Option Int) := fun v =>
    match v with
    | .none => some none
    | v => (Arith.intOf? v).map some
  let step ← (← bound step).getD 1 |> some
  if step == 0 then none
  let len : Int := length
  let (lower, upper) : Int × Int := if step < 0 then (-1, len - 1) else (0, len)
  let adjust : Option Int → Int → Int := fun v dflt =>
    match v with
    | none => dflt
    | some v =>
      let v := if v < 0 then v + len else v
      if v < lower then lower else if v > upper then upper else v
  let start := adjust (← bound lo) (if step < 0 then upper else lower)
  let stop := adjust (← bound hi) (if step < 0 then lower else upper)
  let count : Nat :=
    if step > 0 then (if stop > start then ((stop - start - 1) / step + 1).toNat else 0)
    else (if start > stop then ((start - stop - 1) / (-step) + 1).toNat else 0)
  return (List.range count).map fun (k : Nat) => (start + Int.ofNat k * step).toNat

/-- The item of a value at a key. -/
def item (target key : Value) : Option Value :=
  match target with
  | .str s => do
    let i ← Arith.intOf? key
    let p ← position s.length i
    return .str (String.singleton (s.toList.getD p ' '))
  | .list xs | .tuple xs => do
    let i ← Arith.intOf? key
    let p ← position xs.length i
    xs[p]?
  | .dict entries =>
    if (Value.unhashable? key).isSome then none else Value.lookup? entries key
  | _ => none

/-- The slice of a value. -/
def slice (target lo hi step : Value) : Option Value :=
  match target with
  | .str s => do
    let cs := s.toList
    let ps ← slicePositions cs.length lo hi step
    return .str (String.ofList (ps.map fun p => cs.getD p ' '))
  | .list xs => do
    let ps ← slicePositions xs.length lo hi step
    return .list (ps.filterMap fun p => xs[p]?)
  | .tuple xs => do
    let ps ← slicePositions xs.length lo hi step
    return .tuple (ps.filterMap fun p => xs[p]?)
  | _ => none

end Subscript

/-- The members of a set written out, in order, without repeats. -/
def setOf (items : List Value) : Option Value :=
  match items.foldlM (fun acc x => Value.putMember acc x) [] with
  | .ok members => some (.set members)
  | .error _ => none

/-- The dictionary written out by its keys and values, a repeated key keeping
its first place and its last value. -/
def dictOf (keys values : List Value) : Option Value :=
  match (keys.zip values).foldlM (fun acc (k, v) => Value.putEntry acc k v) [] with
  | .ok entries => some (.dict entries)
  | .error _ => none

/-- The depth of nesting to which values are compared. -/
def compareDepth : Nat := 1000

mutual

/-- The value of an expression, or nothing when computing it fails. -/
def Expr.eval : Expr → Option Value
  | .int n => some (.int n)
  | .float x => some (.float x)
  | .text s => some (.str s)
  | .none => some .none
  | .truth b => some (.bool b)
  | .ellipsis => some .ellipsis
  | .broken => Option.none
  | .tuple items => (Expr.evalAll items).map .tuple
  | .list items => (Expr.evalAll items).map .list
  | .set items => (Expr.evalAll items).bind setOf
  | .dict keys values => do dictOf (← Expr.evalAll keys) (← Expr.evalAll values)
  | .unary op e => e.eval.bind (Arith.unary op)
  | .not e => e.eval.map fun v => .bool !v.truthy
  | .binary op a b => do Arith.binary op (← a.eval) (← b.eval)
  | .compare op a b => do
    let r ← Order.compare compareDepth op (← a.eval) (← b.eval)
    return .bool r
  | .and a b => do
    let v ← a.eval
    if v.truthy then b.eval else some v
  | .or a b => do
    let v ← a.eval
    if v.truthy then some v else b.eval
  | .index e i => do Subscript.item (← e.eval) (← i.eval)
  | .slice e lo hi step => do Subscript.slice (← e.eval) (← lo.eval) (← hi.eval) (← step.eval)

/-- The values of expressions in order, or nothing when one fails. -/
def Expr.evalAll : List Expr → Option (List Value)
  | [] => some []
  | e :: es => do
    let v ← e.eval
    let vs ← Expr.evalAll es
    return v :: vs

end

/-- Whether a condition's text holds: read, computed and taken as true or
false; nothing when it cannot be read or computed. -/
def holds? (text : String) : Option Bool := do
  let ls ← Lexeme.scan text
  let e ← Expr.read? ls
  let v ← e.eval
  return v.truthy

end Basis.Preprocess.Condition
