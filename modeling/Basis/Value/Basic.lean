/-!
# Dynamic values

`Value` is the universe of plain data that the requests of this library carry
and that its containers hold: nothing, truth values, integers of any size,
floats, texts, byte strings, the four kinds of collection, complex numbers, the
ellipsis and the name of a class.

This file holds the type and the facts about a value that need no printing:
the name of its type, its length, its truth, and the code of a one-character
text or one-byte string.
-/

namespace Basis

/-- A plain data value. -/
inductive Value where
  /-- Nothing. -/
  | none
  /-- A truth value. -/
  | bool (b : Bool)
  /-- An integer of any size. -/
  | int (n : Int)
  /-- A binary64 float. -/
  | float (x : Float)
  /-- A text of Unicode characters. -/
  | str (s : String)
  /-- A byte string. -/
  | bytes (b : ByteArray)
  /-- A mutable sequence. -/
  | list (items : List Value)
  /-- An immutable sequence. -/
  | tuple (items : List Value)
  /-- A mapping, its entries in insertion order. -/
  | dict (entries : List (Value × Value))
  /-- A mutable set, its members in iteration order. -/
  | set (items : List Value)
  /-- An immutable set, its members in iteration order. -/
  | frozenset (items : List Value)
  /-- A complex number. -/
  | complex (re im : Float)
  /-- The ellipsis. -/
  | ellipsis
  /-- A class, by name. -/
  | cls (name : String)
  deriving Inhabited

namespace Value

/-- The name of the type of a value, as error messages write it. -/
def typeName : Value → String
  | none => "NoneType"
  | bool _ => "bool"
  | int _ => "int"
  | float _ => "float"
  | str _ => "str"
  | bytes _ => "bytes"
  | list _ => "list"
  | tuple _ => "tuple"
  | dict _ => "dict"
  | set _ => "set"
  | frozenset _ => "frozenset"
  | complex _ _ => "complex"
  | ellipsis => "ellipsis"
  | cls _ => "type"

/-- The number of items of a sized value. -/
def length? : Value → Option Nat
  | str s => some s.length
  | bytes b => some b.size
  | list items => some items.length
  | tuple items => some items.length
  | dict entries => some entries.length
  | set items => some items.length
  | frozenset items => some items.length
  | _ => Option.none

/-- The truth of a value: empty collections, zero and nothing are false. -/
def truthy : Value → Bool
  | none => false
  | bool b => b
  | int n => n != 0
  | float x => x != 0.0
  | str s => !s.isEmpty
  | bytes b => b.size != 0
  | list items => !items.isEmpty
  | tuple items => !items.isEmpty
  | dict entries => !entries.isEmpty
  | set items => !items.isEmpty
  | frozenset items => !items.isEmpty
  | complex re im => re != 0.0 || im != 0.0
  | ellipsis => true
  | cls _ => true

/-- Why a value has no character code. -/
inductive OrdError where
  /-- A text or byte string of another length than one. -/
  | wrongLength (n : Nat)
  /-- A value of a type that has no code. -/
  | wrongType (typeName : String)
  deriving DecidableEq, Repr

/-- The message of an `OrdError`. -/
def OrdError.message : OrdError → String
  | .wrongLength n => s!"ord() expected a character, but string of length {n} found"
  | .wrongType t => s!"ord() expected string of length 1, but {t} found"

/-- The code of a one-character text or a one-byte string. -/
def ord? : Value → Except OrdError Nat
  | str s =>
    match s.toList with
    | [c] => .ok c.toNat
    | cs => .error (.wrongLength cs.length)
  | bytes b => if h : b.size = 1 then .ok b[0].toNat else .error (.wrongLength b.size)
  | v => .error (.wrongType v.typeName)

/-- The items of a sequence, set or mapping in the order in which iteration
visits them; a text gives its one-character texts, a byte string its bytes as
integers, a mapping its keys. -/
def items? : Value → Option (List Value)
  | str s => some (s.toList.map fun c => str (String.singleton c))
  | bytes b => some (b.toList.map fun x => int x.toNat)
  | list items => some items
  | tuple items => some items
  | dict entries => some (entries.map (·.1))
  | set items => some items
  | frozenset items => some items
  | _ => Option.none

end Value

end Basis
