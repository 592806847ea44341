/-!
# Primitive C types of the machine

Values of C live on a 64-bit little-endian machine with the LP64 data model:
`char` and the byte types take one byte, `short` two, `int` four, `long`,
`long long` and pointers eight, `float` and `double` four and eight. Every
primitive type is aligned to its size.

A primitive type holds its value in one of five ways (`Holding`): `char` as a
one-byte string, `signed char` and `unsigned char` as small integers that read
as characters, `_Bool` as a truth value, the other integer types as integers,
and the two float types as floats. The fixed-width names (`int32_t`, `size_t`,
...) are integers of their width. Other primitive names of C (`long double`,
`wchar_t`, the complex types, ...) have no run-time type here.

`Primitive.wrap` is the value an integer takes when stored in the type: its
residue modulo `2^bits`, read as signed or unsigned, and for `_Bool` whether it
is non-zero; `Primitive.fits` says whether storing keeps the integer.
-/

namespace Basis.Foreign

/-- How a primitive type holds its value. -/
inductive Holding where
  /-- A one-byte string (`char`). -/
  | character
  /-- A small integer that reads as a character (`signed char`, `unsigned char`). -/
  | byte
  /-- A truth value (`_Bool`). -/
  | truth
  /-- An integer. -/
  | integer
  /-- A float. -/
  | floating
  deriving DecidableEq, Repr, Inhabited

/-- A primitive type of the machine. -/
structure Primitive where
  /-- The size in bytes, which is also the alignment. -/
  size : Nat
  /-- How the value is held. -/
  holding : Holding
  /-- Whether an integer type is signed. -/
  signed : Bool
  deriving DecidableEq, Repr, Inhabited

/-- The size of a pointer in bytes. -/
def pointerSize : Nat := 8

/-- The primitive types the machine has, by name. -/
def machinePrimitives : List (String × Primitive) :=
  [("char", ⟨1, .character, true⟩),
   ("short", ⟨2, .integer, true⟩),
   ("int", ⟨4, .integer, true⟩),
   ("long", ⟨8, .integer, true⟩),
   ("long long", ⟨8, .integer, true⟩),
   ("signed char", ⟨1, .byte, true⟩),
   ("unsigned char", ⟨1, .byte, false⟩),
   ("unsigned short", ⟨2, .integer, false⟩),
   ("unsigned int", ⟨4, .integer, false⟩),
   ("unsigned long", ⟨8, .integer, false⟩),
   ("unsigned long long", ⟨8, .integer, false⟩),
   ("float", ⟨4, .floating, true⟩),
   ("double", ⟨8, .floating, true⟩),
   ("_Bool", ⟨1, .truth, false⟩),
   ("uint64_t", ⟨8, .integer, false⟩),
   ("uintptr_t", ⟨8, .integer, false⟩),
   ("size_t", ⟨8, .integer, false⟩),
   ("uint32_t", ⟨4, .integer, false⟩),
   ("uint16_t", ⟨2, .integer, false⟩),
   ("uint8_t", ⟨1, .integer, false⟩),
   ("int64_t", ⟨8, .integer, true⟩),
   ("intptr_t", ⟨8, .integer, true⟩),
   ("ptrdiff_t", ⟨8, .integer, true⟩),
   ("ssize_t", ⟨8, .integer, true⟩),
   ("int32_t", ⟨4, .integer, true⟩),
   ("int16_t", ⟨2, .integer, true⟩),
   ("int8_t", ⟨1, .integer, true⟩)]

/-- The primitive type of a name, if the machine has one. -/
def primitiveOf? (name : String) : Option Primitive :=
  (machinePrimitives.find? (·.1 == name)).map (·.2)

namespace Primitive

/-- The number of value bits. -/
def bits (p : Primitive) : Nat := 8 * p.size

/-- The value an integer takes when stored: for `_Bool` whether it is non-zero
(as 0 or 1), otherwise its residue modulo `2^bits`, read with the type's sign. -/
def wrap (p : Primitive) (n : Int) : Int :=
  if p.holding == .truth then (if n != 0 then 1 else 0)
  else
    let m : Int := Int.pow 2 p.bits
    let r := n % m
    if p.signed && r ≥ m / 2 then r - m else r

/-- Whether storing an integer keeps it. -/
def fits (p : Primitive) (n : Int) : Bool := p.wrap n == n

/-- A float as the type stores it: rounded to binary32 for a four-byte float. -/
def roundFloat (p : Primitive) (x : Float) : Float :=
  if p.size == 4 then x.toFloat32.toFloat else x

end Primitive

end Basis.Foreign
