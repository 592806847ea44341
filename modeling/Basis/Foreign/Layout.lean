/-!
# Layout of structs and unions

`Shape.ofSlots` places the members of a struct or union given the size and
alignment of each and the width of each bit field, the way the run-time
library of C types on this machine does:

* a member that is no bit field goes to the next offset aligned to its
  alignment (capped by the packing when there is one), and closes any open bit
  field;
* a bit field opens a storage unit of its type's size, continues the open unit
  when its type is not wider than the unit and its bits still fit, or widens
  the open unit to its type's size when its type is wider and its bits fit
  there; a continuing or widening bit field is addressed from the end of the
  unit back by its type's size, its bits counted from there;
* in a union every member starts at offset 0;
* the size is the end of the last member (for a union the largest end), rounded
  up to the alignment, which is the largest alignment met and at least 1.

A member's `Place` is its offset and, for a bit field, its first bit and width
in the value of its type read at that offset.
-/

namespace Basis.Foreign

/-- A member to place: the size and alignment of its type, and its width if it
is a bit field. -/
structure Slot where
  /-- The size of the member's type. -/
  size : Nat
  /-- The alignment of the member's type. -/
  align : Nat
  /-- The width of a bit field. -/
  width : Option Nat := none
  deriving Repr, Inhabited

/-- Where a member lands. -/
structure Place where
  /-- The offset of the value read for the member. -/
  offset : Nat
  /-- For a bit field, its first bit and its width in that value. -/
  bits : Option (Nat × Nat) := none
  deriving Repr, Inhabited, DecidableEq

/-- The layout of a struct or union. -/
structure Shape where
  /-- The places of the members, in order. -/
  places : List Place
  /-- The size in bytes. -/
  size : Nat
  /-- The alignment in bytes. -/
  align : Nat
  deriving Repr, Inhabited

/-- The state of placing members one after the other. -/
structure Cursor where
  /-- The bytes used so far. -/
  size : Nat := 0
  /-- The offset after the last member. -/
  offset : Nat := 0
  /-- The alignment of the last member placed as a new unit. -/
  align : Nat := 0
  /-- The width in bits of the open bit-field unit, 0 when none is open. -/
  unitBits : Nat := 0
  /-- The bits of the open unit taken so far. -/
  bitOffset : Nat := 0

namespace Cursor

/-- Places a member of a size and alignment at the next aligned offset. -/
def advance (pack : Nat) (c : Cursor) (size align : Nat) : Cursor × Nat :=
  let align := if pack > 0 then min pack align else align
  let delta := if align > 0 && c.offset % align != 0 then align - c.offset % align else 0
  let offset := c.offset + delta
  ({ c with size := c.size + delta + size, offset := offset + size, align }, offset)

/-- Places one member. -/
def place (pack : Nat) (c : Cursor) (s : Slot) : Cursor × Place :=
  let bits := 8 * s.size
  match s.width with
  | some w =>
    if c.unitBits != 0 && bits ≤ c.unitBits && c.bitOffset + w ≤ c.unitBits then
      ({ c with bitOffset := c.bitOffset + w }, ⟨c.offset - s.size, some (c.bitOffset, w)⟩)
    else if c.unitBits != 0 && bits ≥ c.unitBits && c.bitOffset + w ≤ bits then
      let grow := s.size - c.unitBits / 8
      let offset := c.offset + grow
      ({ c with offset, size := c.size + grow, unitBits := bits, bitOffset := c.bitOffset + w },
        ⟨offset - s.size, some (c.bitOffset, w)⟩)
    else
      let (c, offset) := advance pack { c with unitBits := bits } s.size s.align
      ({ c with bitOffset := w }, ⟨offset, some (0, w)⟩)
  | none =>
    let (c, offset) := advance pack { c with unitBits := 0, bitOffset := 0 } s.size s.align
    (c, ⟨offset, none⟩)

end Cursor

/-- Rounds up to a multiple. -/
def roundUp (n align : Nat) : Nat := if align == 0 then n else (n + align - 1) / align * align

/-- The layout of a struct (`union := false`) or union of members, with a
packing (0 for none). -/
def Shape.ofSlots (union : Bool) (pack : Nat) (slots : List Slot) : Shape :=
  let step := fun (acc : Cursor × Nat × Nat × List Place) (s : Slot) =>
    let (c, total, unionSize, places) := acc
    let c := if union then { c with size := 0, offset := 0, align := 0 } else c
    let (c, p) := c.place pack s
    (c, max total c.align, max unionSize c.size, p :: places)
  let (c, total, unionSize, places) := slots.foldl step ({}, 1, 0, [])
  let size := if union then unionSize else c.size
  { places := places.reverse, size := roundUp size total, align := total }

end Basis.Foreign
