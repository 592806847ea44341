import Basis.Failure

/-!
# Memory of C values

`Memory` is a heap of blocks, each a run of bytes at a base address. `allocate`
adds a zeroed block at the next free address; blocks never move and are never
freed, and a gap separates them, so that an address names one byte of at most
one block. Addresses start high, where a process keeps its heap: an address
prints with many hexadecimal digits, as a real one does.

`read` and `write` move bytes inside one block and fail outside every block
(where a process would fault). Numbers are stored little-endian: `encodeLE w n`
is the `w` bytes of `n` modulo `2^(8w)`, least significant first, and
`decodeLE` reads them back (`decodeLE (encodeLE w n) = n % 2^(8w)`).
-/

namespace Basis.Foreign

/-- The `w` little-endian bytes of `n`; the bits above `8 * w` are dropped. -/
def encodeLE : Nat → Nat → List UInt8
  | 0, _ => []
  | w + 1, n => (n % 256).toUInt8 :: encodeLE w (n / 256)

/-- The natural number with these little-endian bytes. -/
def decodeLE : List UInt8 → Nat
  | [] => 0
  | b :: bs => b.toNat + 256 * decodeLE bs

/-- The `w` little-endian bytes of an integer in two's complement. -/
def encodeIntLE (w : Nat) (n : Int) : List UInt8 := encodeLE w (n % Int.pow 2 (8 * w)).toNat

/-- A run of bytes at an address. -/
structure Block where
  /-- The address of the first byte. -/
  base : Nat
  /-- The bytes. -/
  bytes : ByteArray

/-- The heap: its blocks and the next free address. -/
structure Memory where
  /-- The blocks, in the order allocated. -/
  blocks : Array Block := #[]
  /-- The address the next block starts at. -/
  next : Nat := 0x7f3a5c000010

/-- The failure of an access outside every block. -/
def segmentationFault : Failure := ⟨"MemoryError", "access outside allocated memory"⟩

namespace Memory

/-- Adds a zeroed block of a size; its address is a multiple of 16, and at least
16 free bytes follow it. -/
def allocate (m : Memory) (size : Nat) : Memory × Nat :=
  let base := m.next
  let next := (base + size + 16 + 15) / 16 * 16
  ({ blocks := m.blocks.push ⟨base, ByteArray.mk (Array.replicate size 0)⟩, next }, base)

/-- The block holding the `len` bytes from an address, with its index. -/
def blockOf? (m : Memory) (addr len : Nat) : Option (Nat × Block) := do
  let i ← m.blocks.findIdx? fun b => b.base ≤ addr && addr + len ≤ b.base + b.bytes.size
  let b ← m.blocks[i]?
  return (i, b)

/-- The `len` bytes from an address. -/
def read (m : Memory) (addr len : Nat) : Except Failure (List UInt8) :=
  if len == 0 then .ok [] else
  match m.blockOf? addr len with
  | some (_, b) =>
    .ok ((b.bytes.extract (addr - b.base) (addr - b.base + len)).toList)
  | none => .error segmentationFault

/-- Stores bytes from an address. -/
def write (m : Memory) (addr : Nat) (bytes : List UInt8) : Except Failure Memory :=
  if bytes.isEmpty then .ok m else
  match m.blockOf? addr bytes.length with
  | some (i, b) =>
    let start := addr - b.base
    let (stored, _) := bytes.foldl (fun (acc : ByteArray × Nat) x => (acc.1.set! acc.2 x, acc.2 + 1))
      (b.bytes, start)
    .ok { m with blocks := m.blocks.set! i { b with bytes := stored } }
  | none => .error segmentationFault

/-- The bytes from an address up to the first zero byte, at most `limit` of
them; the bytes after the end of the block count as zero. -/
def readString (m : Memory) (addr limit : Nat) : Except Failure (List UInt8) :=
  match m.blockOf? addr 1 with
  | none => if limit == 0 then .ok [] else .error segmentationFault
  | some (_, b) =>
    let avail := (b.bytes.extract (addr - b.base) b.bytes.size).toList
    .ok ((avail.take limit).takeWhile (· != 0))

end Memory

end Basis.Foreign
