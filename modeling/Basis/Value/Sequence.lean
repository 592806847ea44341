import Basis.Failure
import Basis.Value.Basic

/-!
# Values as sequences

The sequence operations that the hashers and the containers apply to the
values they are given: the length, the items in iteration order, and a slice.
Each fails as the value's type demands: a number has no length, a mapping
cannot be cut by a slice, and a set cannot be indexed at all.
-/

namespace Basis.Value

/-- The length of a sized value. -/
def len (v : Value) : Except Failure Nat :=
  match v.length? with
  | some n => .ok n
  | .none => .error (.typeError s!"object of type '{v.typeName}' has no len()")

/-- The items of an iterable value, in iteration order. -/
def iterate (v : Value) : Except Failure (List Value) :=
  match v.items? with
  | some xs => .ok xs
  | .none => .error (.typeError s!"'{v.typeName}' object is not iterable")

/-- The part of a list from position `start` up to, not including, `stop`. -/
def cut {α : Type} (xs : List α) (start stop : Nat) : List α := (xs.take stop).drop start

/-- The slice from `start` up to `stop` of a text, byte string, list or tuple,
of the same type as the value. -/
def slice (v : Value) (start stop : Nat) : Except Failure Value :=
  match v with
  | str s => .ok (str (String.ofList (cut s.toList start stop)))
  | bytes b => .ok (bytes (ByteArray.mk (cut b.toList start stop).toArray))
  | list xs => .ok (list (cut xs start stop))
  | tuple xs => .ok (tuple (cut xs start stop))
  | dict _ => .error (.typeError "unhashable type: 'slice'")
  | v => .error (.typeError s!"'{v.typeName}' object is not subscriptable")

end Basis.Value
