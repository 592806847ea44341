/-!
# Double-ended queues in blocks

A deque keeps its items in a chain of blocks of thirty slots, each block linked
to the next. `leftIndex` is the slot of the first item in the leftmost block and
`rightIndex` the slot of the last item in the rightmost block; the items are the
slots from the one to the other over the full blocks between, in the order in
which the deque's iterator walks them (`Deque.items`). An empty deque is one
block with its ends recentred at slots 16 and 15. `length` is the deque's own
count of its items, and `changes` counts the pushes and pops, so that iterators
can tell that the deque moved under them.

Pushing at an end steps the end's slot outward and writes the item there,
opening a fresh block when the slot leaves its block; popping empties the slot
and steps inward, unlinking the block when it empties, or recentring when the
last item goes. With a bound `maxlen`, a push past the bound pops an item at the
other end. The empty slots of a block hold the default item.

An index names a slot through a walk over the blocks (`Deque.place?`): from the
left end for an index from zero, from the right end for a negative one, each
block taking off the number of items it holds. `reverse` swaps items pairwise
from the two ends inward, stepping each end's place slot by slot across the
blocks. `rotate`, `remove` and `erase?` are built from pushes and pops.
-/

namespace Basis.Collections

/-- A slot of a chain of blocks: the block, counted from the left from zero, and
the slot in it. -/
structure Place where
  /-- The block, counted from the left. -/
  block : Nat
  /-- The slot in the block. -/
  slot : Fin 30
  deriving Inhabited

namespace Place

/-- The slot one to the right: the first slot of the next block after the last slot. -/
def next (p : Place) : Place :=
  if h : p.slot.val + 1 < 30 then ⟨p.block, ⟨p.slot.val + 1, h⟩⟩ else ⟨p.block + 1, 0⟩

/-- The slot one to the left: the last slot of the block before, before the first slot. -/
def prev (p : Place) : Place :=
  if h : 0 < p.slot.val then ⟨p.block, ⟨p.slot.val - 1, by omega⟩⟩ else ⟨p.block - 1, 29⟩

end Place

variable {α : Type}

/-- A block with every slot empty. -/
def freshBlock [Inhabited α] : Vector α 30 := Vector.replicate 30 default

/-- The item in a slot of a chain. -/
def readAt [Inhabited α] (chain : List (Vector α 30)) (p : Place) : α :=
  (chain.getD p.block freshBlock)[p.slot]

/-- The chain with `x` written in one slot. -/
def writeAt (chain : List (Vector α 30)) (p : Place) (x : α) : List (Vector α 30) :=
  chain.modify p.block fun b => b.set p.slot x p.slot.isLt

/-- The items from a block on, block by block: the first block from the slot
`left`, the last block up to the slot `right`, and every slot of a block between. -/
def itemsFrom (left right : Nat) : List (Vector α 30) → List α
  | [] => []
  | [b] => (b.toList.take (right + 1)).drop left
  | b :: c :: bs => b.toList.drop left ++ itemsFrom 0 right (c :: bs)

/-- A deque of items of type `α`. -/
structure Deque (α : Type) where
  /-- The blocks, from the leftmost to the rightmost. -/
  chain : List (Vector α 30)
  /-- The slot of the leftmost item in the leftmost block. -/
  leftIndex : Fin 30
  /-- The slot of the rightmost item in the rightmost block. -/
  rightIndex : Fin 30
  /-- The number of items, as the deque counts them. -/
  length : Nat
  /-- The number of pushes and pops so far. -/
  changes : Nat
  /-- Whether a push makes the deque too long: the deque's bound, as a test on its length. -/
  overBound : Nat → Bool
  deriving Inhabited

namespace Deque

/-- The items, from left to right, as the iterator walks the blocks. -/
def items (d : Deque α) : List α := itemsFrom d.leftIndex d.rightIndex d.chain

/-- The slot of the leftmost item. -/
def leftPlace (d : Deque α) : Place := ⟨0, d.leftIndex⟩

/-- The slot of the rightmost item. -/
def rightPlace (d : Deque α) : Place := ⟨d.chain.length - 1, d.rightIndex⟩

/-- The deque's own emptiness test: one block, its left end past its right end. -/
def isEmpty (d : Deque α) : Bool := d.chain.length == 1 && d.rightIndex.val < d.leftIndex.val

/-- The first slot of a block that holds an item: the left end in the leftmost block. -/
def firstSlot (d : Deque α) (k : Nat) : Nat := if k = 0 then d.leftIndex.val else 0

/-- One past the last slot of a block that holds an item: one past the right end in
the rightmost block, thirty in any other. -/
def stopSlot (d : Deque α) (k : Nat) : Nat := if k + 1 = d.chain.length then d.rightIndex.val + 1 else 30

theorem stopSlot_le (d : Deque α) (k : Nat) : d.stopSlot k ≤ 30 := by
  unfold stopSlot
  split <;> omega

theorem firstSlot_add_lt (d : Deque α) {k index : Nat} (h : index < d.stopSlot k - d.firstSlot k) :
    d.firstSlot k + index < 30 := by
  have := d.stopSlot_le k
  omega

theorem stopSlot_sub_lt (d : Deque α) (k back : Nat) : d.stopSlot k - 1 - back < 30 := by
  have := d.stopSlot_le k
  omega

/-- The walk of indexing from the left, at block `k` with `m` blocks to go: the
item `index` on from the block's first item is in this block if the block holds
more items than that, and otherwise that many fewer items on from the next
block's first. -/
def refFromLeft (d : Deque α) (index k : Nat) : Nat → Option Place
  | 0 => none
  | m + 1 =>
    if h : index < d.stopSlot k - d.firstSlot k then
      some ⟨k, ⟨d.firstSlot k + index, d.firstSlot_add_lt h⟩⟩
    else d.refFromLeft (index - (d.stopSlot k - d.firstSlot k)) (k + 1) m

/-- The walk of indexing from the right, at block `k - 1` (none when `k` is zero):
the item `back` places before the block's last item, which the index `-1 - back`
names, is in this block if the block holds more items than `back`, and
otherwise that many fewer places before the previous block's last. -/
def refFromRight (d : Deque α) (back : Nat) : Nat → Option Place
  | 0 => none
  | k + 1 =>
    if back < d.stopSlot k - d.firstSlot k then
      some ⟨k, ⟨d.stopSlot k - 1 - back, d.stopSlot_sub_lt k back⟩⟩
    else d.refFromRight (back - (d.stopSlot k - d.firstSlot k)) k

/-- The slot of the item at an index, negative indices counting from the right;
`none` when the walk leaves the chain. -/
def place? (d : Deque α) (index : Int) : Option Place :=
  if 0 ≤ index then d.refFromLeft index.toNat 0 d.chain.length
  else d.refFromRight (-index - 1).toNat d.chain.length

/-- The same deque with `f` applied to the item in every slot. -/
def map {β : Type} (f : α → β) (d : Deque α) : Deque β :=
  ⟨d.chain.map fun b => b.map f, d.leftIndex, d.rightIndex, d.length, d.changes, d.overBound⟩

variable [Inhabited α]

/-- An empty deque with the given bound test. -/
def empty (overBound : Nat → Bool) : Deque α := ⟨[freshBlock], 16, 15, 0, 0, overBound⟩

/-- Empties the deque and recentres its ends; the count of changes starts again. -/
def clear (d : Deque α) : Deque α := empty d.overBound

/-- The deque after its leftmost item is removed, which must exist: the slot is
emptied and the left end steps right, onto the next block past the last slot;
with no next block the deque is empty and recentres. -/
def dropLeft (d : Deque α) : Deque α :=
  let d := { d with length := d.length - 1, changes := d.changes + 1 }
  let d := { d with chain := writeAt d.chain d.leftPlace default }
  if h : d.leftIndex.val + 1 < 30 then { d with leftIndex := ⟨d.leftIndex.val + 1, h⟩ }
  else
    match d.chain.tail with
    | [] => { d with leftIndex := 16, rightIndex := 15 }
    | b :: bs => { d with chain := b :: bs, leftIndex := 0 }

/-- The deque after its rightmost item is removed, which must exist: the slot is
emptied and the right end steps left, onto the block before past the first slot;
with no block before the deque is empty and recentres. -/
def dropRight (d : Deque α) : Deque α :=
  let d := { d with length := d.length - 1, changes := d.changes + 1 }
  let d := { d with chain := writeAt d.chain d.rightPlace default }
  if h : 0 < d.rightIndex.val then { d with rightIndex := ⟨d.rightIndex.val - 1, by omega⟩ }
  else
    match d.chain.dropLast with
    | [] => { d with leftIndex := 16, rightIndex := 15 }
    | b :: bs => { d with chain := b :: bs, rightIndex := 29 }

/-- Removes and returns the leftmost item; `none` when the deque is empty. -/
def popLeft? (d : Deque α) : Option (α × Deque α) :=
  if d.isEmpty then none else some (readAt d.chain d.leftPlace, d.dropLeft)

/-- Removes and returns the rightmost item; `none` when the deque is empty. -/
def popRight? (d : Deque α) : Option (α × Deque α) :=
  if d.isEmpty then none else some (readAt d.chain d.rightPlace, d.dropRight)

/-- The deque with `x` written one slot past its right end, in a fresh block
past the last slot, before the bound is tested. -/
def growRight (d : Deque α) (x : α) : Deque α :=
  let d := if h : d.rightIndex.val + 1 < 30 then { d with rightIndex := ⟨d.rightIndex.val + 1, h⟩ }
    else { d with chain := d.chain ++ [freshBlock], rightIndex := 0 }
  let d := { d with length := d.length + 1, changes := d.changes + 1 }
  { d with chain := writeAt d.chain d.rightPlace x }

/-- The deque with `x` written one slot before its left end, in a fresh block
before the first slot, before the bound is tested. -/
def growLeft (d : Deque α) (x : α) : Deque α :=
  let d := if h : 0 < d.leftIndex.val then { d with leftIndex := ⟨d.leftIndex.val - 1, by omega⟩ }
    else { d with chain := freshBlock :: d.chain, leftIndex := 29 }
  let d := { d with length := d.length + 1, changes := d.changes + 1 }
  { d with chain := writeAt d.chain d.leftPlace x }

/-- Adds an item at the right; past the bound the leftmost item goes. -/
def pushRight (d : Deque α) (x : α) : Deque α :=
  let d := d.growRight x
  if d.overBound d.length then d.dropLeft else d

/-- Adds an item at the left; past the bound the rightmost item goes. -/
def pushLeft (d : Deque α) (x : α) : Deque α :=
  let d := d.growLeft x
  if d.overBound d.length then d.dropRight else d

/-- Moves the rightmost item to the left end, `n` times. -/
def rotateRight (d : Deque α) : Nat → Deque α
  | 0 => d
  | n + 1 =>
    match d.popRight? with
    | some (x, d') => rotateRight (d'.pushLeft x) n
    | none => d

/-- Moves the leftmost item to the right end, `n` times. -/
def rotateLeft (d : Deque α) : Nat → Deque α
  | 0 => d
  | n + 1 =>
    match d.popLeft? with
    | some (x, d') => rotateLeft (d'.pushRight x) n
    | none => d

/-- The number of steps of a rotation by `n`: a rotation by more than half the
length is replaced by the equivalent one in the other direction. -/
def rotationSteps (length : Nat) (n : Int) : Int :=
  let half : Int := (length / 2 : Nat)
  if n > half ∨ n < -half then
    let m := n % (length : Int)
    if m > half then m - length else if m < -half then m + length else m
  else n

/-- Rotates by `n` to the right, or by `-n` to the left; a deque of at most one
item stays as it is. -/
def rotate (d : Deque α) (n : Int) : Deque α :=
  if d.length ≤ 1 then d
  else
    let k := rotationSteps d.length n
    if k ≥ 0 then d.rotateRight k.toNat else d.rotateLeft (-k).toNat

/-- The loop of `reverse`, `n` more times: swaps the items in the slots `left`
and `right`, then steps `left` one slot to the right and `right` one slot to
the left. -/
def swapLoop (chain : List (Vector α 30)) (left right : Place) : Nat → List (Vector α 30)
  | 0 => chain
  | n + 1 =>
    let x := readAt chain left
    let y := readAt chain right
    swapLoop (writeAt (writeAt chain right x) left y) left.next right.prev n

/-- Reverses the items in place: as many swaps as half the length, from the two
ends inward. The ends and the count of changes stay. -/
def reverse (d : Deque α) : Deque α :=
  { d with chain := swapLoop d.chain d.leftPlace d.rightPlace (d.length / 2) }

/-- The item at an index, negative indices counting from the right. -/
def get? (d : Deque α) (i : Int) : Option α := (d.place? i).map (readAt d.chain)

/-- Replaces the item at an index, negative indices counting from the right. -/
def set? (d : Deque α) (i : Int) (x : α) : Option (Deque α) :=
  (d.place? i).map fun p => { d with chain := writeAt d.chain p x }

/-- Removes the item at a position by rotating it to an end, popping it and
rotating back; `none` if there is no such position. -/
def erase? (d : Deque α) (i : Int) : Option (Deque α) :=
  if i ≥ 0 then
    if i ≥ d.length then none
    else ((d.rotate (-i)).popLeft?).map fun (_, d') => d'.rotate i
  else
    let k := -i - 1
    if k ≥ d.length then none
    else ((d.rotate k).popRight?).map fun (_, d') => d'.rotate (-k)

/-- The outcome of looking for an item to remove. -/
inductive Search (ε : Type) where
  /-- Found and removed. -/
  | found
  /-- Not found. -/
  | absent
  /-- The comparison failed. -/
  | failed (e : ε)

/-- Looks at the leftmost item up to `n` times: removes it if `accepts` holds of
it, else moves it to the right end. Returns how many items were moved along with
the outcome. -/
def searchLeft {ε : Type} (accepts : α → Except ε Bool) (d : Deque α) (moved : Nat) :
    Nat → Deque α × Nat × Search ε
  | 0 => (d, moved, .absent)
  | n + 1 =>
    match d.get? 0 with
    | none => (d, moved, .absent)
    | some x =>
      match accepts x with
      | .error e => (d, moved, .failed e)
      | .ok true => (d.dropLeft, moved, .found)
      | .ok false =>
        match d.popLeft? with
        | some (y, d') => searchLeft accepts (d'.pushRight y) (moved + 1) n
        | none => (d, moved, .absent)

/-- Removes the first item that `accepts` accepts, then rotates the items
looked at back into place. When no item accepts, every item has been moved
once and the rotation back is by the whole length. -/
def remove {ε : Type} (d : Deque α) (accepts : α → Except ε Bool) : Deque α × Search ε :=
  let (d', moved, outcome) := searchLeft accepts d 0 d.length
  (d'.rotate moved, outcome)

end Deque

end Basis.Collections
