import Basis.Value.Basic
import Basis.Foreign.Class

/-!
# Data of foreign-function sessions

A session hands `Datum`s to its operations and gets `Datum`s back: plain values
(`Basis.Value`: nothing, truth values, numbers, texts, byte strings and the
rest), lists, tuples and mappings of data, C data (`CData`), classes of C data,
the sessions' interfaces and libraries by name, and functions of the scripting
side, by name.

C data come in five shapes:

* a number held by value, of a primitive or enum class (`CData.value`), with a
  `Scalar`: a byte for `char`, a truth value for `_Bool`, a float, or an
  integer;
* a pointer, an address of a pointer class; a pointer made by allocation owns
  its memory, which changes how it prints and forbids indexes other than 0;
  a pointer made by a cast keeps the integer it was cast from;
* an array, the address and length of its items; an allocated one owns them;
* a struct or union, the address of its bytes;
* a pointer to a function, its address, with the name it was looked up under
  in a library, or the function it calls when it is a callback.
-/

namespace Basis.Foreign

/-- A number held by value. -/
inductive Scalar where
  /-- A byte, the value of `char`. -/
  | byte (b : UInt8)
  /-- A truth value, the value of `_Bool`. -/
  | truth (b : Bool)
  /-- An integer. -/
  | int (n : Int)
  /-- A float. -/
  | float (x : Float)
  deriving Inhabited, Repr

/-- A C datum. -/
inductive CData where
  /-- A number of a primitive or enum class, held by value. -/
  | value (cls : CClass) (v : Scalar)
  /-- A pointer; `owned` when it was allocated with its memory. -/
  | pointer (cls : CClass) (address : Int) (owned : Bool)
  /-- An array of a class of array, its items at an address. -/
  | array (cls : CClass) (address : Nat) (length : Nat) (owned : Bool)
  /-- A struct or union at an address. -/
  | record (cls : CClass) (address : Nat)
  /-- A pointer to a function, with the name it was looked up under and the
  function it calls, by name, when it is a callback. -/
  | function (cls : CClass) (address : Int) (name : Option String) (calling : Option String)
  deriving Inhabited, Repr

namespace CData

/-- The class of a datum. -/
def cls : CData → CClass
  | .value c _ | .pointer c _ _ | .array c _ _ _ | .record c _ | .function c _ _ _ => c

/-- The address a datum stands for: its own for pointers, that of its items
or bytes for arrays and records; none for numbers. A pointer made by a cast
keeps the integer it was cast from, which may lie outside the machine's
addresses. -/
def address? : CData → Option Int
  | .pointer _ a _ | .function _ a _ _ => some a
  | .array _ a _ _ | .record _ a => some a
  | .value .. => none

end CData

/-- A datum of a session. -/
inductive Datum where
  /-- A plain value that holds no datum of a session: never a list, tuple or mapping. -/
  | plain (v : Value)
  /-- A list. -/
  | list (items : List Datum)
  /-- A tuple. -/
  | tuple (items : List Datum)
  /-- A mapping, its entries in insertion order. -/
  | dict (entries : List (Datum × Datum))
  /-- A C datum. -/
  | cdata (c : CData)
  /-- A class of C data. -/
  | ctype (c : CClass)
  /-- An interface, by name. -/
  | ffi (name : String)
  /-- A library, by its number. -/
  | library (id : Nat)
  /-- A function of the scripting side, by name. -/
  | function (name : String)
  /-- A function that makes a callback of a class from the function it is given. -/
  | decorator (cls : CClass) (error : Datum) (onerror : Datum)
  deriving Inhabited

namespace Datum

/-- Nothing. -/
def none : Datum := .plain .none

/-- An integer. -/
def int (n : Int) : Datum := .plain (.int n)

/-- A truth value. -/
def bool (b : Bool) : Datum := .plain (.bool b)

/-- A float. -/
def float (x : Float) : Datum := .plain (.float x)

/-- A text. -/
def str (s : String) : Datum := .plain (.str s)

/-- A byte string. -/
def bytes (bs : List UInt8) : Datum := .plain (.bytes (ByteArray.mk bs.toArray))

/-- Whether a datum is nothing. -/
def isNone : Datum → Bool
  | .plain .none => true
  | _ => false

/-- The name of the type of a datum, as messages write it; `nameOf` names
structs, unions and enums. -/
def typeName (nameOf : Nat → String) : Datum → String
  | .plain v => v.typeName
  | .list _ => "list"
  | .tuple _ => "tuple"
  | .dict _ => "dict"
  | .cdata c => c.cls.className nameOf
  | .ctype _ => "type"
  | .ffi _ => "FFI"
  | .library _ => "FFILibrary"
  | .function _ | .decorator .. => "function"

end Datum

end Basis.Foreign
