import Basis.Failure
import Basis.Value.Basic
import Basis.Decimal.Shortest

/-!
# Equality of values

`Value.equals` is the equality under which mappings find their keys and sets
their members. Numbers are equal by value across their types: `true`, `1`,
`1.0` and `1+0j` are one key, and a NaN equals nothing. A list never equals a
tuple, a text never a byte string; a set and a frozen set with the same members
are equal, and so are two mappings with the same entries in any order.

`Value.unhashable?` names the type that keeps a value from being a key.
-/

namespace Basis.Value

/-- Whether a finite float equals an integer exactly. -/
def floatEqInt (x : Float) (n : Int) : Bool :=
  if x.isNaN || x.isInf then false
  else
    let b := Decimal.Binary.ofBits x.toBits
    let negative := x.toBits >>> 63 == 1
    let mag : Nat := n.natAbs
    let signOk := mag == 0 || (negative == (n < 0))
    signOk && b.m * Nat.pow 2 b.q.toNat == mag * Nat.pow 2 (-b.q).toNat

/-- The numeric view of a number: its real part as an integer or a float, and
its imaginary part. -/
def numeric? : Value → Option ((Int ⊕ Float) × Float)
  | bool b => some (.inl (if b then 1 else 0), 0.0)
  | int n => some (.inl n, 0.0)
  | float x => some (.inr x, 0.0)
  | complex re im => some (.inr re, im)
  | _ => Option.none

/-- Whether a value is a complex number. -/
def isComplex : Value → Bool
  | complex _ _ => true
  | _ => false

/-- Equality of two real parts. -/
def realEq : Int ⊕ Float → Int ⊕ Float → Bool
  | .inl a, .inl b => a == b
  | .inl a, .inr y => floatEqInt y a
  | .inr x, .inl b => floatEqInt x b
  | .inr x, .inr y => x == y

/-- Equality of values. -/
def equals (a b : Value) : Bool :=
  match a, b with
  | none, none => true
  | ellipsis, ellipsis => true
  | cls a, cls b => a == b
  | str a, str b => a == b
  | bytes a, bytes b => a.toList == b.toList
  | list xs, list ys | tuple xs, tuple ys =>
    xs.length == ys.length && (xs.attach.zip ys).all fun (⟨x, _⟩, y) => equals x y
  | dict xs, dict ys =>
    xs.length == ys.length && xs.attach.all fun ⟨(k, v), _⟩ =>
      ys.any fun (k', v') => equals k k' && equals v v'
  | set xs, set ys | set xs, frozenset ys | frozenset xs, set ys | frozenset xs, frozenset ys =>
    xs.length == ys.length && xs.attach.all fun ⟨x, _⟩ => ys.any fun y => equals x y
  | a, b =>
    match numeric? a, numeric? b with
    | some (ra, ia), some (rb, ib) => realEq ra rb && ia == ib
    | _, _ => false
termination_by sizeOf a
decreasing_by
  all_goals
    have := List.sizeOf_lt_of_mem ‹_ ∈ _›
    simp only [list.sizeOf_spec, tuple.sizeOf_spec, set.sizeOf_spec, frozenset.sizeOf_spec,
      dict.sizeOf_spec, Prod.mk.sizeOf_spec] at *
    omega

/-- The name of the type that keeps a value from being a key or a set member:
a list, a mapping or a set, also inside a tuple. -/
def unhashable? : Value → Option String
  | list _ => some "list"
  | dict _ => some "dict"
  | set _ => some "set"
  | tuple items => unhashableIn items
  | _ => Option.none
where
  /-- The first unhashable type among the items of a tuple. -/
  unhashableIn : List Value → Option String
    | [] => Option.none
    | v :: rest => (unhashable? v).orElse fun _ => unhashableIn rest

/-- The order of an integer and a finite float, exactly. -/
def compareIntFloat (n : Int) (x : Float) : Ordering :=
  let b := Decimal.Binary.ofBits x.toBits
  let negative := x.toBits >>> 63 == 1
  -- both sides scaled by 2^(-q) when q < 0
  let mag : Int := (b.m * Nat.pow 2 b.q.toNat : Nat)
  let lhs : Int := n * (Nat.pow 2 (-b.q).toNat : Nat)
  let rhs := if negative then -mag else mag
  compare lhs rhs

/-- The order of two real numbers among truth values, integers and floats;
`none` when a NaN takes part or a value is no real number. -/
def compareReal? (a b : Value) : Option Ordering :=
  match numeric? a, numeric? b with
  | some (.inl x, _), some (.inl y, _) =>
    if a.isComplex || b.isComplex then Option.none else some (compare x y)
  | some (ra, _), some (rb, _) =>
    if a.isComplex || b.isComplex then Option.none
    else
      match ra, rb with
      | .inl x, .inr y => if y.isNaN then Option.none else if y.isInf then some (if y > 0 then .lt else .gt) else some (compareIntFloat x y)
      | .inr x, .inl y => if x.isNaN then Option.none else if x.isInf then some (if x > 0 then .gt else .lt) else some (compareIntFloat y x).swap
      | .inr x, .inr y => if x.isNaN || y.isNaN then Option.none else if x < y then some .lt else if x == y then some .eq else some .gt
      | .inl x, .inl y => some (compare x y)
  | _, _ => Option.none

/-- The failure of an order comparison between values of types that have none. -/
def unorderable (op : String) (a b : Value) : Failure :=
  .typeError s!"'{op}' not supported between instances of '{a.typeName}' and '{b.typeName}'"

/-- The failure of using an unhashable value as a key. -/
def unhashableFailure (typeName : String) : Failure := .typeError s!"unhashable type: '{typeName}'"

/-- A mapping with one more entry: an equal key keeps its place and its first
spelling and takes the new value; a new key goes last. -/
def putEntry (entries : List (Value × Value)) (k v : Value) : Except Failure (List (Value × Value)) :=
  match k.unhashable? with
  | some t => .error (unhashableFailure t)
  | Option.none =>
    if entries.any (fun e => equals e.1 k) then .ok (entries.map fun e => if equals e.1 k then (e.1, v) else e)
    else .ok (entries ++ [(k, v)])

/-- The value of a key in a mapping. -/
def lookup? (entries : List (Value × Value)) (k : Value) : Option Value :=
  (entries.find? fun e => equals e.1 k).map (·.2)

/-- A set with one more member, unless an equal one is there. -/
def putMember (items : List Value) (x : Value) : Except Failure (List Value) :=
  match x.unhashable? with
  | some t => .error (unhashableFailure t)
  | Option.none => if items.any (equals · x) then .ok items else .ok (items ++ [x])

end Basis.Value
