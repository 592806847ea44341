import Basis.Digest.Sha256
import Basis.Digest.Sha512

/-!
# SHA-2 contexts over bytes

A context is the state of one SHA-256 or SHA-512 computation fed with bytes:
the chaining words, the bit count as a 32-bit low count and a high count, a
block buffer, and the number of bytes of the unfinished block at its front.
The two computations differ only in the word width, the block size and the
room the length takes in the last block (`Engine`); SHA-224 and SHA-384 are the
same computations from other initial words.

`Context.update` takes in a message part in three phases: the bytes that fill a
started block, the whole blocks that follow, each becoming the block buffer and
compressed, and the bytes after the last whole block, copied to the front of the
buffer. `Context.final` marks the end of the message in the buffer, pads it
with zeros (compressing it and starting a block of zeros when the length does
not fit after the mark), writes the two counts in the last eight bytes, and
reads the digest off the chaining words as a text of one character per byte.
-/

namespace Basis.Digest.Sha2

/-- What a SHA-2 computation over words of type `W` depends on. -/
structure Engine (W : Type) where
  /-- The number of bytes of a block is `2 ^ blockBits`. -/
  blockBits : Nat
  /-- The end mark at a position below this leaves room for the length in the
  same block. -/
  markLimit : Nat
  /-- The compression of the chaining words with a block. -/
  compress : List W → List UInt8 → List W
  /-- The bytes of a word, most significant first. -/
  bytesBE : W → List UInt8
  /-- A block is no longer than the bit count's low word counts in bytes. -/
  blockBits_le : blockBits ≤ 29 := by decide
  /-- The length takes at least the last eight bytes of a block. -/
  markLimit_le : markLimit + 8 ≤ Nat.pow 2 blockBits := by decide
  /-- There is room for a byte before the length. -/
  markLimit_pos : 0 < markLimit := by decide

namespace Engine

variable {W : Type}

/-- The number of bytes of a block. -/
def blockSize (e : Engine W) : Nat := Nat.pow 2 e.blockBits

/-- SHA-256: 32-bit words, blocks of 64 bytes, and the length in the last eight. -/
def sha256 : Engine UInt32 where
  blockBits := 6
  markLimit := 56
  compress := Sha256.compress
  bytesBE := Sha256.bytesBE

/-- SHA-512: 64-bit words, blocks of 128 bytes, and the length in the last sixteen. -/
def sha512 : Engine UInt64 where
  blockBits := 7
  markLimit := 112
  compress := Sha512.compress
  bytesBE := Sha512.bytesBE

end Engine

/-- Writes bytes over a buffer from a position on. -/
def overwrite (buffer : List UInt8) (pos : Nat) (bytes : List UInt8) : List UInt8 :=
  buffer.take pos ++ bytes ++ buffer.drop (pos + bytes.length)

/-- The text of bytes, one character per byte. -/
def textOf (bytes : List UInt8) : String := String.ofList (bytes.map fun b => Char.ofNat b.toNat)

/-- The state of one computation. -/
structure Context (W : Type) where
  /-- The chaining words. -/
  words : List W
  /-- The bit count modulo `2^32`. -/
  countLo : Nat
  /-- The wrap-arounds of the low count, and the parts of `2^29` bytes or more. -/
  countHi : Nat
  /-- The block buffer. -/
  block : List UInt8
  /-- The number of bytes of the unfinished block at the front of the buffer. -/
  used : Nat

namespace Context

variable {W : Type} (e : Engine W)

/-- A context that has taken nothing in, from the initial words; its buffer is
a block of zeros. -/
def start (initial : List W) : Context W := ⟨initial, 0, 0, List.replicate e.blockSize 0, 0⟩

/-- Counts the bits of `n` bytes: the low count wraps at `2^32`, and the high
count takes the wrap-around and the bits of `n` past 32. -/
def count (c : Context W) (n : Nat) : Context W :=
  let lo := (c.countLo + n * 8) % Nat.pow 2 32
  { c with countLo := lo, countHi := (if lo < c.countLo then c.countHi + 1 else c.countHi) + n / Nat.pow 2 29 }

/-- Compresses the block buffer into the chaining words. -/
def transform (c : Context W) : Context W := { c with words := e.compress c.words c.block }

/-- Compresses `n` whole blocks from the front of the bytes, each in turn
becoming the block buffer. -/
def absorbBlocks (c : Context W) (bytes : List UInt8) : Nat → Context W
  | 0 => c
  | n + 1 => absorbBlocks (transform e { c with block := bytes.take e.blockSize }) (bytes.drop e.blockSize) n

/-- Takes in bytes when no block is started: the whole blocks are compressed,
and the bytes after them are copied to the front of the buffer. -/
def absorb (c : Context W) (bytes : List UInt8) : Context W :=
  let n := bytes.length / e.blockSize
  let c := absorbBlocks e c bytes n
  let tail := bytes.drop (e.blockSize * n)
  { c with block := overwrite c.block c.used tail, used := tail.length }

/-- Takes in a message part. The bits are counted first. A started block is
filled from the part's first bytes; if the part ends before the block is full,
nothing more happens, else the block is compressed and the rest of the part
is absorbed. -/
def update (c : Context W) (bytes : List UInt8) : Context W :=
  let c := c.count bytes.length
  if c.used = 0 then absorb e c bytes
  else
    let i := min (e.blockSize - c.used) bytes.length
    let c := { c with block := overwrite c.block c.used (bytes.take i), used := c.used + i }
    if c.used = e.blockSize then absorb e { transform e c with used := 0 } (bytes.drop i) else c

/-- The eight bytes of the two counts, high count first, each as a 32-bit word
with its most significant byte first. -/
def lengthBytes (c : Context W) : List UInt8 :=
  [c.countHi >>> 24, c.countHi >>> 16, c.countHi >>> 8, c.countHi,
    c.countLo >>> 24, c.countLo >>> 16, c.countLo >>> 8, c.countLo].map Nat.toUInt8

/-- The digest of the message taken in, as a text of one character per byte.
The mark `0x80` goes at the count's position in the block, and zeros after it.
If the mark is not below the engine's limit, that block is compressed and a
block of zeros follows. The last block ends with zeros up to its last eight
bytes and the eight bytes of the counts. -/
def final (c : Context W) : String :=
  let pos := c.countLo >>> 3 &&& (e.blockSize - 1)
  let marked := c.block.set pos 0x80
  let padded := marked.take (pos + 1) ++ List.replicate (e.blockSize - (pos + 1)) 0
  let c := if pos + 1 > e.markLimit then
      { transform e { c with block := padded } with block := List.replicate e.blockSize 0 }
    else { c with block := padded }
  let last := c.block.take e.markLimit ++ List.replicate (e.blockSize - 8 - e.markLimit) 0 ++ lengthBytes c
  let c := transform e { c with block := last }
  textOf (c.words.flatMap e.bytesBE)

end Context

/-- A SHA-256 context that has taken nothing in. -/
def sha256Start : Context UInt32 := Context.start Engine.sha256 Sha256.initial256

/-- A SHA-224 context that has taken nothing in. -/
def sha224Start : Context UInt32 := Context.start Engine.sha256 Sha256.initial224

/-- A SHA-512 context that has taken nothing in. -/
def sha512Start : Context UInt64 := Context.start Engine.sha512 Sha512.initial512

/-- A SHA-384 context that has taken nothing in. -/
def sha384Start : Context UInt64 := Context.start Engine.sha512 Sha512.initial384

end Basis.Digest.Sha2
